import PromptGraph.Proofs.Deploy.Sessions
import PromptGraph.Proofs.Deploy.Stored

/-!
# `Proofs.Deploy.Lasting` — a deployed chain keeps its remote id

The registry outlives the cache. Where it can be written and nobody deletes workflows, the id that a deployment has
returned stays on file, its workflow stays there, and every later deployment of the chain comes to it: by the cache, or
by a change of the registered workflow. No workflow is listed or made for that chain again.

## Contents
- **What is kept.** `Kept`: an id on file whose workflow is there; `Keeping`: the ids in the cache are kept.
- **Steps.** `Upheld`, `Phase.Stands`, `upheld_step`: what is kept when a deployment goes on.
- **Histories.** `HistoryStep`, `history`, and `deployed_id_lasts`.
-/

namespace PromptGraph

open Act Engine Http

section

variable [Depth]

/-! ## What is kept -/

section Keeping

variable (ctx : DeployContext)

/-- The registry on file names a workflow for a chain, and it is there. -/
structure Kept (s : Site) (chain remote : String) : Prop where
  ne_empty : remote ≠ ""
  live : remote ∈ s.host.ids
  filed : ∃ r, Loads ctx s.near.files r ∧ r.get? chain = some remote

/-- Texts can be stored under the registry's path, and what the cache knows is on file. -/
structure Keeping (path : String) (s : Site) : Prop where
  writable : s.near.files.Writable path
  cached : ∀ chain remote, s.near.cache.get? chain = some remote → Kept ctx s chain remote

end Keeping

section Kept

variable {source : IdSource} {ctx : DeployContext} {c : Chain} {org : Option String} {path : String} {s t : Site}
  {chain remote : String}

/-- A chain has one kept id. -/
theorem Kept.unique (h : Kept ctx s chain remote) {other : String} (h' : Kept ctx s chain other) : other = remote := by
  obtain ⟨r, hload, hget⟩ := h.filed
  obtain ⟨r', hload', hget'⟩ := h'.filed
  rw [hload'.unique hload, hget] at hget'
  exact (Option.some.inj hget').symm

/-- What the registry names for a chain whose id is kept. -/
theorem Kept.get?_of_loads (h : Kept ctx s chain remote) {r : Registry} (hload : Loads ctx s.near.files r) :
    nonEmpty (r.get? chain) = some remote := by
  obtain ⟨r', hload', hget⟩ := h.filed
  rw [hload.unique hload', hget]
  exact nonEmpty_of_ne h.ne_empty

/-- While the files stay as they are and no workflow is deleted, what is kept stays so. -/
theorem Kept.mono (h : Kept ctx s chain remote) (hids : ∀ id ∈ s.host.ids, id ∈ t.host.ids)
    (hfiles : t.near.files = s.near.files) : Kept ctx t chain remote :=
  ⟨h.ne_empty, hids _ h.live, hfiles ▸ h.filed⟩

theorem Keeping.mono (h : Keeping ctx path s) (hids : ∀ id ∈ s.host.ids, id ∈ t.host.ids)
    (hfiles : t.near.files = s.near.files)
    (hcache : ∀ chain remote, t.near.cache.get? chain = some remote → s.near.cache.get? chain = some remote) :
    Keeping ctx path t :=
  ⟨hfiles ▸ h.writable, fun chain remote hget => (h.cached chain remote (hcache chain remote hget)).mono hids hfiles⟩

omit [Depth] in
/-- A host deletes nothing when it answers. -/
theorem Host.ids_answer (source : IdSource) (h : Host) (r : Request) {id : String} (hid : id ∈ h.ids) :
    id ∈ (h.answer source r).2.ids := by
  unfold Host.answer
  split
  · exact hid
  · rw [Host.ids_append]
    exact List.mem_append_left _ hid
  · split
    · rw [Host.ids_change]
      exact hid
    · exact hid
  · exact hid

/-- What is remembered is kept, and so is all else that was. -/
theorem kept_of_remembered (hpath : nonEmpty ctx.registryPath = some path) (hwritable : s.near.files.Writable path)
    {r : Registry} (hload : Loads ctx s.near.files r) (hne : remote ≠ "") (hlive : remote ∈ s.host.ids)
    {t : Site} (hids : t.host.ids = s.host.ids)
    (hfiles : t.near.files = (s.near.files.stored path (r.insert chain remote).toText).2) :
    t.near.files.Writable path ∧ Kept ctx t chain remote
      ∧ ∀ other id, other ≠ chain → Kept ctx s other id → Kept ctx t other id := by
  have hstored := hwritable.stored_eq_none (r.insert chain remote).toText
  have hload' := hload.stored hpath chain remote hstored
  have hnodup := Registry.nodup_insert hload.nodup chain remote
  rw [← hfiles] at hload'
  refine ⟨hfiles ▸ hwritable.stored _, ⟨hne, hids ▸ hlive, _, hload', ?_⟩, fun other id hother hkept => ?_⟩
  · rw [Registry.get?_sortedByName hnodup, Registry.get?_insert_self]
  · obtain ⟨r', hloads, hget⟩ := hkept.filed
    refine ⟨hkept.ne_empty, hids ▸ hkept.live, _, hload', ?_⟩
    rw [Registry.get?_sortedByName hnodup, Registry.get?_insert_of_ne (Ne.symm hother), hload.unique hloads, hget]

end Kept

/-! ## Steps -/

section Steps

variable (ctx : DeployContext) (c : Chain) (path : String)

/-- What holds at a site after a deployment of a chain has gone on from another: all that was kept or cached still is,
    and where the chain's id was kept, only changes were sent. -/
structure Upheld (s t : Site) : Prop where
  keeping : Keeping ctx path t
  kept : ∀ chain remote, Kept ctx s chain remote → Kept ctx t chain remote
  cached : ∀ chain remote, s.near.cache.get? chain = some remote → t.near.cache.get? chain = some remote
  requests : (∃ remote, Kept ctx s c.id remote) → ∃ sent, t.near.requests = s.near.requests ++ sent
    ∧ ∀ r ∈ sent, r.isListing = false ∧ r.isCreation = false

/-- A workflow is the one that was kept for the chain, if one was. -/
def Aimed (s : Site) (remote : String) : Prop := ∀ kept, Kept ctx s c.id kept → remote = kept

/-- What is known in a phase of a deployment that began at a site. A listing is come to only if no id was kept. -/
def Phase.Stands (s t : Site) : Phase → Prop
  | .start => True
  | .registered _ remote => remote ≠ "" ∧ (∃ r, Loads ctx t.near.files r) ∧ Aimed ctx c s remote
  | .listing _ => (∃ r, Loads ctx t.near.files r) ∧ ∀ kept, ¬ Kept ctx s c.id kept
  | .creating _ => (∃ r, Loads ctx t.near.files r) ∧ ∀ kept, ¬ Kept ctx s c.id kept
  | .updating _ remote => remote ≠ "" ∧ (∃ r, Loads ctx t.near.files r) ∧ ∀ kept, ¬ Kept ctx s c.id kept
  | .activating remote => remote ≠ "" ∧ (∃ r, Loads ctx t.near.files r) ∧ Aimed ctx c s remote ∧ remote ∈ t.host.ids
  | .returned remote => t.near.cache.get? c.id = some remote ∧ Aimed ctx c s remote
  | .stopped => True

end Steps

section Steps

variable {source : IdSource} {ctx : DeployContext} {c : Chain} {org : Option String} {path : String} {s t u : Site}
  {phase next : Phase}

theorem Upheld.same (h : Upheld ctx c path s t) (hsame : Site.Same t u) : Upheld ctx c path s u where
  keeping := h.keeping.mono (fun _ hid => hsame.host ▸ hid) hsame.files fun _ _ hget => hsame.cache ▸ hget
  kept chain remote hkept := (h.kept chain remote hkept).mono (fun _ hid => hsame.host ▸ hid) hsame.files
  cached chain remote hget := hsame.cache ▸ h.cached chain remote hget
  requests hkept := hsame.requests ▸ h.requests hkept

/-- A request to the host leaves what is upheld, if it is a change or no id was kept. -/
theorem Upheld.sent (source : IdSource) (h : Upheld ctx c path s t) {r : Request}
    (hr : (∃ remote, Kept ctx s c.id remote) → r.isListing = false ∧ r.isCreation = false) :
    Upheld ctx c path s (t.after source r) where
  keeping := h.keeping.mono (fun _ => t.host.ids_answer source r) rfl fun _ _ hget => hget
  kept chain remote hkept := (h.kept chain remote hkept).mono (fun _ => t.host.ids_answer source r) rfl
  cached := h.cached
  requests hkept := by
    obtain ⟨sent, hsent, hchanges⟩ := h.requests hkept
    refine ⟨sent ++ [r], ?_, fun q hq => ?_⟩
    · show t.near.requests ++ [r] = _
      rw [hsent, List.append_assoc]
    · rcases List.mem_append.mp hq with hq | hq
      · exact hchanges q hq
      · exact List.mem_singleton.mp hq ▸ hr hkept

/-- Where an id is kept, a deployment waits to send a change. -/
theorem Phase.Stands.request (h : phase.Stands ctx c s t) {r : Request} (hr : phase.request? = some r)
    (hkept : ∃ remote, Kept ctx s c.id remote) : r.isListing = false ∧ r.isCreation = false := by
  obtain ⟨kept, hkept⟩ := hkept
  cases phase with
  | registered d remote => cases hr; exact ⟨rfl, rfl⟩
  | updating d remote => cases hr; exact ⟨rfl, rfl⟩
  | activating remote => cases hr; exact ⟨rfl, rfl⟩
  | listing d => exact absurd hkept (h.2 kept)
  | creating d => exact absurd hkept (h.2 kept)
  | _ => cases hr

/-- What is upheld when a workflow was activated and is remembered. -/
theorem upheld_remembered (source : IdSource) (hpath : nonEmpty ctx.registryPath = some path)
    (hs : Keeping ctx path s) {remote : String} (hupheld : Upheld ctx c path s t)
    (hstands : (Phase.activating remote).Stands ctx c s t) {r : Request}
    (hr : (Phase.activating remote).request? = some r) :
    let u : Site := { t.after source r with
      near := ((rememberDeployment ctx c.id remote).run Rehearsal.answer (t.after source r).near).2 }
    Upheld ctx c path s u ∧ u.near.cache.get? c.id = some remote := by
  intro u
  have hsent := hupheld.sent source (hstands.request hr)
  obtain ⟨hne, ⟨registry, hload⟩, haimed, hlive⟩ := hstands
  have hload : Loads ctx (t.after source r).near.files registry := hload
  have hcache : u.near.cache = t.near.cache.insert c.id remote := (run_rememberDeployment ctx c.id remote _).1
  have hfiles := (run_rememberDeployment_of_loads hload c.id remote).2
  have hrequests : u.near.requests = (t.after source r).near.requests := (run_rememberDeployment ctx c.id remote _).2
  rw [DeployContext.filesAfter, hpath] at hfiles
  obtain ⟨hwritable, hself, hothers⟩ := kept_of_remembered (t := u) hpath hsent.keeping.writable hload hne
    (t.host.ids_answer source r hlive) rfl hfiles
  have hget : u.near.cache.get? c.id = some remote := by rw [hcache, Registry.get?_insert_self]
  refine ⟨⟨⟨hwritable, fun chain id hid => ?_⟩, fun chain id hid => ?_, fun chain id hid => ?_, ?_⟩, hget⟩
  · -- what the cache knows is on file
    by_cases hchain : chain = c.id
    · subst hchain
      cases hget.symm.trans hid
      exact hself
    · rw [hcache, Registry.get?_insert_of_ne (Ne.symm hchain)] at hid
      exact hothers chain id hchain (hsent.keeping.cached chain id hid)
  · -- what was kept still is: the chain's own id because the deployment has come to it
    by_cases hchain : chain = c.id
    · subst hchain
      exact haimed id hid ▸ hself
    · exact hothers chain id hchain (hsent.kept chain id hid)
  · -- what was cached still is
    by_cases hchain : chain = c.id
    · subst hchain
      exact haimed id (hs.cached _ _ hid) ▸ hget
    · rw [hcache, Registry.get?_insert_of_ne (Ne.symm hchain)]
      exact hsent.cached chain id hid
  · rw [hrequests]
    exact hsent.requests

/-- Where an answer leads to, a kept id stands as it did. -/
theorem stands_of_leads (hupheld : Upheld ctx c path s t) (hstands : phase.Stands ctx c s t) {r : Request}
    (hr : phase.request? = some r) (hlead : Leads source phase t.host next) (hsame : Site.Same (t.after source r) u) :
    next.Stands ctx c s u := by
  have hids : ∀ id ∈ t.host.ids, id ∈ u.host.ids := fun id hid => hsame.host ▸ t.host.ids_answer source _ hid
  have hfiles : u.near.files = t.near.files := hsame.files
  cases hlead with
  | kept hmem =>
      obtain ⟨hne, hload, haimed⟩ := hstands
      exact ⟨hne, hfiles ▸ hload, haimed, hids _ hmem⟩
  | gone hmem =>
      -- the workflow of a kept id is there, so none was kept
      obtain ⟨-, hload, haimed⟩ := hstands
      refine ⟨hfiles ▸ hload, fun kept hkept => hmem ?_⟩
      exact haimed kept hkept ▸ (hupheld.kept _ _ hkept).live
  | absent _ => exact ⟨hfiles ▸ hstands.1, hstands.2⟩
  | present hnamed =>
      have hmem := List.mem_filter.mp (hnamed ▸ List.mem_singleton_self _)
      exact ⟨of_decide_eq_true hmem.2, hfiles ▸ hstands.1, hstands.2⟩
  | created =>
      cases hr
      have hhost : u.host = t.host ++ [⟨source.next t.host.ids, _⟩] := hsame.host
      refine ⟨source.next_ne_empty _, hfiles ▸ hstands.1, fun kept hkept => absurd hkept (hstands.2 kept), ?_⟩
      rw [hhost, Host.ids_append]
      exact List.mem_append_right _ (List.mem_singleton_self _)
  | updated hmem =>
      obtain ⟨hne, hload, hnone⟩ := hstands
      exact ⟨hne, hfiles ▸ hload, fun kept hkept => absurd hkept (hnone kept), hids _ hmem⟩

/-- **What is upheld when a deployment takes a step.** -/
theorem upheld_step (hpath : nonEmpty ctx.registryPath = some path) (hs : Keeping ctx path s)
    (hat : Upheld ctx c path s t ∧ phase.Stands ctx c s t) (hstep : Step ctx c org source phase t next u) :
    Upheld ctx c path s u ∧ next.Stands ctx c s u := by
  obtain ⟨hupheld, hstands⟩ := hat
  cases hstep with
  | cached h =>
      obtain ⟨hget, -⟩ := nonEmpty_eq_some.mp h
      exact ⟨hupheld, hget, fun kept hkept => (hupheld.kept _ _ hkept).unique (hupheld.keeping.cached _ _ hget)⟩
  | found _ hd hload hr hsame =>
      refine ⟨hupheld.same hsame, (nonEmpty_eq_some.mp hr).2, ⟨_, hsame.files ▸ hload⟩, fun kept hkept => ?_⟩
      exact Option.some.inj (hr.symm.trans ((hupheld.kept _ _ hkept).get?_of_loads hload))
  | missing _ hd hload hr hsame =>
      -- the registry would name a kept id
      refine ⟨hupheld.same hsame, ⟨_, hsame.files ▸ hload⟩, fun kept hkept => ?_⟩
      rw [(hupheld.kept _ _ hkept).get?_of_loads hload] at hr
      cases hr
  | unsent hsame => exact ⟨hupheld.same hsame, trivial⟩
  | unusable hr hsame => exact ⟨(hupheld.sent source (hstands.request hr)).same hsame, trivial⟩
  | led hr hlead hsame =>
      exact ⟨(hupheld.sent source (hstands.request hr)).same hsame, stands_of_leads hupheld hstands hr hlead hsame⟩
  | remembered hr hnext =>
      have hupheld' := upheld_remembered source hpath hs hupheld hstands hr
      rcases hnext with rfl | rfl
      · exact ⟨hupheld'.1, hupheld'.2, hstands.2.2.1⟩
      · exact ⟨hupheld'.1, trivial⟩
  | idle h =>
      rcases h with rfl | ⟨_, rfl⟩
      · exact ⟨hupheld, trivial⟩
      · exact ⟨hupheld, hstands⟩

/-- What a deployment upholds, however it ends; what it returns is in the cache, and is what was kept. -/
theorem ensureDeployed_upholds (source : IdSource) (hpath : nonEmpty ctx.registryPath = some path)
    (hs : Keeping ctx path s) (c : Chain) (org : Option String) :
    Upheld ctx c path s ((ensureDeployed ctx c org).run (Site.answer source) s).2
      ∧ ∀ r, ((ensureDeployed ctx c org).run (Site.answer source) s).1 = .value r →
        ((ensureDeployed ctx c org).run (Site.answer source) s).2.near.cache.get? c.id = some r
          ∧ Aimed ctx c s r := by
  have hstart : Upheld ctx c path s s :=
    ⟨hs, fun _ _ h => h, fun _ _ h => h, fun _ => ⟨[], (List.append_nil _).symm, nofun⟩⟩
  obtain ⟨next, ⟨hupheld, hstands⟩, hend⟩ := run_of_steps source
    (I := fun phase t => Upheld ctx c path s t ∧ phase.Stands ctx c s t) (upheld_step hpath hs)
    (.start : Phase.At ctx c org .start _) ⟨hstart, trivial⟩
  refine ⟨hupheld, fun r hr => ?_⟩
  rcases hend with ⟨r', rfl, hvalue⟩ | ⟨-, hnone⟩
  · cases hr.symm.trans hvalue
    exact hstands
  · exact absurd hr (hnone r)

end Steps

/-! ## Histories -/

/-- What happens beside a host: a step of the session, or somebody else changes workflows and deletes none. -/
inductive HistoryStep where
  | own (step : SessionStep)
  | foreign (change : Host → Host) (deletesNone : ∀ h : Host, ∀ id ∈ h.ids, id ∈ (change h).ids)

namespace HistoryStep

/-- The site after a step. -/
def after (source : IdSource) (ctx : DeployContext) : HistoryStep → Site → Site
  | .own step, s => (step.run source ctx s).2
  | .foreign change _, s => { s with host := change s.host }

/-- Whether the cache loses a chain in a step. -/
def forgets (chain : String) : HistoryStep → Bool
  | .own (.invalidate none) => true
  | .own (.invalidate (some forgotten)) => forgotten = chain
  | .own .restart => true
  | _ => false

end HistoryStep

/-- The site after a history. -/
def history (source : IdSource) (ctx : DeployContext) (steps : List HistoryStep) (s : Site) : Site :=
  steps.foldl (fun s step => step.after source ctx s) s

section Histories

variable {source : IdSource} {ctx : DeployContext} {path : String} {s : Site}

omit [Depth] in
/-- A chain that is not forgotten is looked up as before. -/
theorem Registry.get?_filter_ne (chain other : String) (r : Registry) :
    Registry.get? chain (r.filter fun entry => entry.1 ≠ other) = if other = chain then none else r.get? chain := by
  induction r with
  | nil => exact (ite_self none).symm
  | cons entry rest ih =>
      obtain ⟨k, v⟩ := entry
      by_cases hk : k = other
      · subst hk
        rw [List.filter_cons_of_neg (by simp), ih, Registry.get?]
        split <;> rfl
      · rw [List.filter_cons_of_pos (by simpa using hk), Registry.get?, Registry.get?, ih]
        by_cases hchain : k = chain
        · rw [if_pos hchain, if_pos hchain, if_neg (fun h => hk (hchain.trans h.symm))]
        · rw [if_neg hchain, if_neg hchain]

/-- What a step of a history keeps. -/
structure Lasts (ctx : DeployContext) (path : String) (step : HistoryStep) (s t : Site) : Prop where
  keeping : Keeping ctx path t
  kept : ∀ chain remote, Kept ctx s chain remote → Kept ctx t chain remote
  cached : ∀ chain remote, step.forgets chain = false → s.near.cache.get? chain = some remote →
    t.near.cache.get? chain = some remote

/-- A cache that lost entries is still kept. -/
theorem Keeping.forget (hs : Keeping ctx path s) {t : Site} (hhost : t.host = s.host)
    (hfiles : t.near.files = s.near.files)
    (hcache : ∀ chain remote, t.near.cache.get? chain = some remote → s.near.cache.get? chain = some remote) :
    Keeping ctx path t ∧ ∀ chain remote, Kept ctx s chain remote → Kept ctx t chain remote :=
  ⟨hs.mono (fun _ hid => hhost ▸ hid) hfiles hcache, fun _ _ hkept => hkept.mono (fun _ hid => hhost ▸ hid) hfiles⟩

/-- **What a step of a history keeps**: the ids on file and their workflows, and in the cache what is not forgotten. -/
theorem lasts_step (source : IdSource) (hpath : nonEmpty ctx.registryPath = some path) (hs : Keeping ctx path s)
    (step : HistoryStep) : Lasts ctx path step s (step.after source ctx s) := by
  cases step with
  | own step =>
      cases step with
      | ensure c org =>
          have h := (ensureDeployed_upholds source hpath hs c org).1
          exact ⟨h.keeping, h.kept, fun chain remote _ => h.cached chain remote⟩
      | invalidate chain =>
          cases chain with
          | none =>
              obtain ⟨hkeeping, hkept⟩ := hs.forget (t := (HistoryStep.own (.invalidate none)).after source ctx s) rfl
                rfl nofun
              exact ⟨hkeeping, hkept, nofun⟩
          | some forgotten =>
              have hcache : ∀ chain, Registry.get? chain
                  ((HistoryStep.own (.invalidate (some forgotten))).after source ctx s).near.cache
                  = if forgotten = chain then none else s.near.cache.get? chain :=
                fun chain => Registry.get?_filter_ne chain forgotten s.near.cache
              obtain ⟨hkeeping, hkept⟩ := hs.forget
                (t := (HistoryStep.own (.invalidate (some forgotten))).after source ctx s) rfl rfl
                fun chain remote hget => by
                  rw [hcache] at hget
                  split at hget
                  · cases hget
                  · exact hget
              refine ⟨hkeeping, hkept, fun chain remote hstays hget => ?_⟩
              rw [hcache, if_neg (of_decide_eq_false hstays)]
              exact hget
      | restart =>
          obtain ⟨hkeeping, hkept⟩ := hs.forget (t := s.restarted) rfl rfl nofun
          exact ⟨hkeeping, hkept, nofun⟩
  | foreign change deletesNone =>
      have hids : ∀ id ∈ s.host.ids, id ∈ (change s.host).ids := deletesNone s.host
      exact ⟨hs.mono hids rfl fun _ _ hget => hget, fun _ _ hkept => hkept.mono hids rfl, fun _ _ _ hget => hget⟩

/-- What a history keeps, by induction on its steps. -/
theorem lasts_history (source : IdSource) (hpath : nonEmpty ctx.registryPath = some path) (hs : Keeping ctx path s)
    (steps : List HistoryStep) :
    Keeping ctx path (history source ctx steps s)
      ∧ (∀ chain remote, Kept ctx s chain remote → Kept ctx (history source ctx steps s) chain remote)
      ∧ ∀ chain remote, (∀ step ∈ steps, step.forgets chain = false) → s.near.cache.get? chain = some remote →
        (history source ctx steps s).near.cache.get? chain = some remote := by
  induction steps generalizing s with
  | nil => exact ⟨hs, fun _ _ h => h, fun _ _ _ h => h⟩
  | cons step rest ih =>
      have hstep := lasts_step source hpath hs step
      obtain ⟨hkeeping, hkept, hcached⟩ := ih hstep.keeping
      refine ⟨hkeeping, fun chain remote h => hkept chain remote (hstep.kept chain remote h),
        fun chain remote hstays h => hcached chain remote (fun q hq => hstays q (List.mem_cons_of_mem _ hq)) ?_⟩
      exact hstep.cached chain remote (hstays step List.mem_cons_self) h

/-- A deployment of a chain that the cache knows sends nothing and changes nothing. -/
theorem run_ensureDeployed_of_cached {c : Chain} (org : Option String) {remote : String} (hne : remote ≠ "")
    (hget : s.near.cache.get? c.id = some remote) :
    (ensureDeployed ctx c org).run (Site.answer source) s = (.value remote, s) := by
  rw [ensureDeployed_eq]
  show (afterLookUp ctx c org (s.near.cache.get? c.id)).run (Site.answer source) s = _
  rw [hget, afterLookUp, nonEmpty_of_ne hne]
  rfl

/-- **A deployed chain keeps its remote id.** Let a process begin with an empty cache beside any host, with a registry
    that can be written, and let a deployment of a chain return an id after any history. Then after any further history
    the cache has the id, unless the chain was forgotten; the registry has it; a deployment of a chain of that chain id
    answers it at once where the cache knows the chain; and else it lists and makes no workflow, and returns nothing
    but that id. -/
theorem deployed_id_lasts (source : IdSource) (ctx : DeployContext) (path : String)
    (hpath : nonEmpty ctx.registryPath = some path) (s₀ : Site) (hcache : s₀.near.cache = [])
    (hwritable : s₀.near.files.Writable path) (earlier later : List HistoryStep) (c : Chain) (org : Option String)
    (r : String) (t : Site)
    (hrun : (ensureDeployed ctx c org).run (Site.answer source) (history source ctx earlier s₀) = (.value r, t)) :
    let u := history source ctx later t
    ((∀ step ∈ later, step.forgets c.id = false) → u.near.cache.get? c.id = some r)
      ∧ (∃ registry, Loads ctx u.near.files registry ∧ registry.get? c.id = some r)
      ∧ ∀ c' org', c'.id = c.id →
        (u.near.cache.get? c.id ≠ none → (ensureDeployed ctx c' org').run (Site.answer source) u = (.value r, u))
          ∧ ∀ o v, (ensureDeployed ctx c' org').run (Site.answer source) u = (o, v) →
            (∀ r', o = .value r' → r' = r)
              ∧ ∃ sent, v.near.requests = u.near.requests ++ sent
                ∧ ∀ q ∈ sent, q.isListing = false ∧ q.isCreation = false := by
  intro u
  have hs₀ : Keeping ctx path s₀ := ⟨hwritable, fun chain remote hget => by rw [hcache] at hget; cases hget⟩
  have hs := (lasts_history source hpath hs₀ earlier).1
  obtain ⟨hupheld, hreturns⟩ := ensureDeployed_upholds source hpath hs c org
  rw [hrun] at hupheld hreturns
  obtain ⟨hget, -⟩ := hreturns r rfl
  obtain ⟨hkeeping, hkept, hcached⟩ := lasts_history source hpath hupheld.keeping later
  have hu : Kept ctx u c.id r := hkept _ _ (hupheld.keeping.cached _ _ hget)
  refine ⟨fun hstays => hcached _ _ hstays hget, hu.filed, fun c' org' hid => ⟨fun hknown => ?_, fun o v hrun' => ?_⟩⟩
  · cases hx : u.near.cache.get? c.id with
    | none => exact absurd hx hknown
    | some x =>
        obtain rfl := hu.unique (hkeeping.cached _ _ hx)
        exact run_ensureDeployed_of_cached org' hu.ne_empty (hid ▸ hx)
  · obtain ⟨hupheld', hreturns'⟩ := ensureDeployed_upholds source hpath hkeeping c' org'
    rw [hrun'] at hupheld' hreturns'
    refine ⟨fun r' hr' => ?_, hupheld'.requests ⟨r, hid ▸ hu⟩⟩
    exact (hreturns' r' hr').2 r (hid ▸ hu)

/-- What was placed is returned once it is remembered, where the registry can be read. -/
theorem run_finish_of_placed {p : Act String} {v : Site} {remote : String}
    (hplaced : (p >>= activate).run (Site.answer source) s = (.value remote, v))
    (hload : ∃ r, Loads ctx v.near.files r) (chain : String) :
    ((p >>= finishDeployment ctx chain).run (Site.answer source) s).1 = .value remote := by
  obtain ⟨r, hload⟩ := hload
  have hsplit : p >>= finishDeployment ctx chain = (p >>= activate) >>= fun remote =>
      rememberDeployment ctx chain remote >>= fun _ => pure remote := by
    rw [bind_bind]
    exact congrArg (Act.bind p) (funext fun remote => finishDeployment_eq_activate ctx chain remote)
  have hnear : (rememberDeployment ctx chain remote).Asks (fun q => q.isExchange = false) False :=
    asks_mono isExchange_of_near (asks_rememberDeployment ctx chain remote)
  rw [hsplit, run_bind, hplaced]
  dsimp only
  rw [run_bind, run_of_not_exchange hnear, (run_rememberDeployment_of_loads hload chain remote).1]
  rfl

end Histories

end

/-- A host with a workflow of another name, beside a process that knows nothing. -/
def foreignSite : Site := { Site.empty with host := [⟨"7", [("name", .str "Other")]⟩] }

theorem run_foreignSite : ((ensureDeployed .filed (emptyChain "chain" "Chain") none).run (Site.answer .tally)
    foreignSite).1 = .value "71" := by
  have hwalk : ∀ w : Rehearsal, w.files = [] → w.files.state "reg.json" = .absent := by
    intro w hfiles
    rw [hfiles, Files.state, Files.parts_plain.walkPath trivial Files.fits_plain, Files.ofPath_plain]
    decide +kernel
  have hempty : ∀ w : Rehearsal, w.files = [] → (loadRegistry (some "reg.json")).run Rehearsal.answer w
      = (.value [], w) :=
    fun w hfiles => run_loadRegistry_of_absent (by decide) (by decide +kernel) (hwalk w hfiles)
  have hload : (loadRegistry (some "reg.json")).run (Site.answer .tally) foreignSite = (.value [], foreignSite) := by
    rw [run_of_not_exchange (asks_mono (fun q h => isExchange_of_near q (.file (.reading h)))
      (asks_loadRegistry (C := True) _)), hempty _ rfl]
  have hsplit : ∀ x : Except Failure Definition,
      (ofExcept x >>= fun d => updateNamed "chain" d [] >>= afterRegistered .filed "chain" d)
        = (ofExcept x >>= upsertByName .filed) >>= finishDeployment .filed "chain" := by
    intro x
    cases x <;> rfl
  rw [run_ensureDeployed_of_load .filed (emptyChain "chain" "Chain") none rfl rfl hload]
  show ((ofExcept _ >>= fun d => updateNamed "chain" d [] >>= afterRegistered .filed "chain" d).run _ _).1 = _
  rw [hsplit]
  have hplaced : (((ofExcept (compileChain (settingFor Rewrites.default none (emptyChain "chain" "Chain"))
      (emptyChain "chain" "Chain")) >>= upsertByName .filed) >>= activate).run (Site.answer .tally) foreignSite)
      = (.value "71", _) := Prod.ext (End.value?_eq_some.mp (by decide +kernel)) rfl
  have hfiles : (((ofExcept (compileChain (settingFor Rewrites.default none (emptyChain "chain" "Chain"))
      (emptyChain "chain" "Chain")) >>= upsertByName .filed) >>= activate).run (Site.answer .tally)
      foreignSite).2.near.files = [] := by decide +kernel
  exact run_finish_of_placed hplaced ⟨[], _, rfl, congrArg Prod.fst (hempty _ hfiles)⟩ "chain"

theorem deployed_id_lasts_foreign : ∃ t,
    (ensureDeployed .filed (emptyChain "chain" "Chain") none).run (Site.answer .tally) foreignSite = (.value "71", t)
      ∧ ∀ later, let u := history .tally .filed later t
        (∃ registry, Loads .filed u.near.files registry ∧ registry.get? "chain" = some "71")
          ∧ ∀ org' r' v, (ensureDeployed .filed (emptyChain "chain" "Renamed") org').run (Site.answer .tally) u
            = (.value r', v) → r' = "71" := by
  have hready : foreignSite.near.files.Ready "reg.json" [] "reg.json" :=
    ⟨Files.parts_plain, Files.fits_plain, trivial, by rw [Files.ofPath_plain]; decide +kernel,
      fun ⟨_, hf, _⟩ => nomatch hf⟩
  have hrun : (ensureDeployed .filed (emptyChain "chain" "Chain") none).run (Site.answer .tally) foreignSite
      = (.value "71", _) := Prod.ext run_foreignSite rfl
  refine ⟨_, hrun, fun later => ?_⟩
  obtain ⟨-, hfiled, hlater⟩ := deployed_id_lasts .tally .filed "reg.json" (nonEmpty_of_ne (by decide)) foreignSite rfl
    hready.writable [] later (emptyChain "chain" "Chain") none "71" _ hrun
  exact ⟨hfiled, fun org' r' v hrun' => (hlater (emptyChain "chain" "Renamed") org' rfl).2 _ v hrun' |>.1 r' rfl⟩

end PromptGraph
