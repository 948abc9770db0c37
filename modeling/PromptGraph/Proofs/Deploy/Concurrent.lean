import PromptGraph.Proofs.Deploy.Phases
import PromptGraph.Proofs.Deploy.Registry

/-!
# `Proofs.Deploy.Concurrent` — two deployments of one chain at once

Two deployments of a chain start cold beside a host that has no workflow of the chain's name. Once one of them has made
a workflow, whoever lists afterwards finds it; so the two come to one workflow unless both listed before either made
one. `Joint` is the invariant: how the phases of the two go together with what the host, the cache and the requests so
far say. `concurrent_deploys_converge_iff` reads the end off it.

## Contents
- **Requests.** `listingsBeforeCreation`.
- **The invariant.** `Phase.Cold`, `Phase.Joined`, `Phase.Holds`, `Joint`.
- **Steps and runs.** `joint_step`, `joint_interleave`.
- **Convergence.** `concurrent_deploys_converge_iff`, and a schedule after which two workflows are left.
-/

namespace PromptGraph

open Act Engine Http

section

variable [Depth]

/-! ## Requests -/

/-- The number of listings before the first workflow is made. -/
def listingsBeforeCreation : List Request → Nat
  | [] => 0
  | r :: rest => if r.isCreation then 0 else (if r.isListing then 1 else 0) + listingsBeforeCreation rest

omit [Depth] in
theorem listingsBeforeCreation_append_of_created {rs : List Request} (hrs : ∃ r ∈ rs, r.isCreation = true)
    (more : List Request) : listingsBeforeCreation (rs ++ more) = listingsBeforeCreation rs := by
  induction rs with
  | nil =>
      obtain ⟨r, hr, -⟩ := hrs
      exact absurd hr List.not_mem_nil
  | cons r rest ih =>
      rw [List.cons_append, listingsBeforeCreation, listingsBeforeCreation]
      by_cases hr : r.isCreation = true
      · rw [if_pos hr, if_pos hr]
      · have hrest : ∃ r ∈ rest, r.isCreation = true := ((List.exists_mem_cons_iff _ _ _).mp hrs).resolve_left hr
        rw [if_neg hr, if_neg hr, ih hrest]

omit [Depth] in
theorem listingsBeforeCreation_append {rs : List Request} (hrs : ∀ r ∈ rs, r.isCreation = false) (r : Request) :
    listingsBeforeCreation (rs ++ [r])
      = listingsBeforeCreation rs + (if r.isCreation then 0 else if r.isListing then 1 else 0) := by
  induction rs with
  | nil => simp [listingsBeforeCreation]
  | cons v rest ih =>
      have hv : ¬ v.isCreation = true := by simp [hrs v List.mem_cons_self]
      rw [List.cons_append, listingsBeforeCreation, listingsBeforeCreation, if_neg hv, if_neg hv,
        ih (fun u hu => hrs u (List.mem_cons_of_mem v hu))]
      omega

/-! ## The invariant -/

namespace Phase

/-- A deployment that has made nothing while nothing was there, and how often it has listed. -/
inductive Cold (name : String) : Phase → Nat → Prop where
  | start : Cold name .start 0
  | listing {d : Definition} (hd : d.name = name) : Cold name (.listing d) 0
  | creating {d : Definition} (hd : d.name = name) : Cold name (.creating d) 1

/-- A deployment that will come to a workflow that is there. -/
inductive Joined (name remote : String) : Phase → Prop where
  | start : Joined name remote .start
  | listing {d : Definition} (hd : d.name = name) : Joined name remote (.listing d)
  | updating {d : Definition} (hd : d.name = name) : Joined name remote (.updating d remote)
  | activating : Joined name remote (.activating remote)
  | returned : Joined name remote (.returned remote)

/-- A deployment that has come to a workflow. -/
inductive Holds (remote : String) : Phase → Prop where
  | activating : Holds remote (.activating remote)
  | returned : Holds remote (.returned remote)

end Phase

/-- No registry read from the files has an entry of the chain. -/
def NoRecord (ctx : DeployContext) (c : Chain) (files : Files) : Prop :=
  ∀ r, Loads ctx files r → nonEmpty (r.get? c.id) = none

/-- The requests of a site make a workflow, after this many listings. -/
def CreatedAfter (s : Site) (listings : Nat) : Prop :=
  (∃ r ∈ s.near.requests, r.isCreation = true) ∧ listingsBeforeCreation s.near.requests = listings

section Sites

variable (ctx : DeployContext) (c : Chain)

/-- Nothing of the name was made, after this many listings. -/
structure ColdSite (s : Site) (listings : Nat) : Prop where
  named : s.host.named c.name = []
  cache : nonEmpty (s.near.cache.get? c.id) = none
  files : NoRecord ctx c s.near.files
  requests : ∀ r ∈ s.near.requests, r.isCreation = false
  count : listingsBeforeCreation s.near.requests = listings

/-- There is one workflow of the name, made after no more than one listing, and the cache knows no other. -/
structure JoinedSite (s : Site) (remote : String) : Prop where
  ne_empty : remote ≠ ""
  named : s.host.named c.name = [remote]
  owns : s.host.Owns c.name remote
  cache : nonEmpty (s.near.cache.get? c.id) = some remote
    ∨ (nonEmpty (s.near.cache.get? c.id) = none ∧ NoRecord ctx c s.near.files)
  created : ∃ n < 2, CreatedAfter s n

/-- There is one workflow of the name, made after two listings. -/
structure SplitSite (s : Site) (remote : String) : Prop where
  named : s.host.named c.name = [remote]
  owns : s.host.Owns c.name remote
  created : CreatedAfter s 2

/-- There are two workflows of the name, made after two listings. -/
structure ApartSite (s : Site) (remote other : String) : Prop where
  ne : remote ≠ other
  named : (s.host.named c.name).length = 2
  owns : s.host.Owns c.name remote ∧ s.host.Owns c.name other
  created : CreatedAfter s 2

/-- **How two deployments of a chain stand to each other.** One has stopped; or both are cold; or one of them has made
    a workflow after no more than one listing, and both come to it; or it was made after two listings, and the other is
    about to make a second one, or has made it. -/
inductive Joint (s : Site) : Phase → Phase → Prop where
  | stopped {p q : Phase} (h : p = .stopped ∨ q = .stopped) : Joint s p q
  | cold {p q : Phase} {m n : Nat} (hp : p.Cold c.name m) (hq : q.Cold c.name n) (hs : ColdSite ctx c s (m + n)) :
      Joint s p q
  | joined {p q : Phase} {remote : String} (hp : p.Joined c.name remote) (hq : q.Joined c.name remote)
      (hs : JoinedSite ctx c s remote) : Joint s p q
  | splitLeft {d : Definition} {q : Phase} {remote : String} (hd : d.name = c.name) (hq : q.Holds remote)
      (hs : SplitSite c s remote) : Joint s (.creating d) q
  | splitRight {d : Definition} {p : Phase} {remote : String} (hp : p.Holds remote) (hd : d.name = c.name)
      (hs : SplitSite c s remote) : Joint s p (.creating d)
  | apart {p q : Phase} {remote other : String} (hp : p.Holds remote) (hq : q.Holds other)
      (hs : ApartSite c s remote other) : Joint s p q

end Sites

section Invariant

variable {source : IdSource} {ctx : DeployContext} {c : Chain} {org : Option String} {s t : Site} {p q next : Phase}

omit [Depth] in
theorem ApartSite.symm {remote other : String} (h : ApartSite c s remote other) : ApartSite c s other remote :=
  ⟨h.ne.symm, h.named, h.owns.symm, h.created⟩

theorem Joint.symm (h : Joint ctx c s p q) : Joint ctx c s q p := by
  cases h with
  | stopped h => exact .stopped h.symm
  | cold hp hq hs => exact .cold hq hp (Nat.add_comm _ _ ▸ hs)
  | joined hp hq hs => exact .joined hq hp hs
  | splitLeft hd hq hs => exact .splitRight hq hd hs
  | splitRight hp hd hs => exact .splitLeft hd hp hs
  | apart hp hq hs => exact .apart hq hp hs.symm

/-! ## What a step keeps of a site -/

omit [Depth] in
/-- Requests that come after the first workflow was made do not change what was listed before. -/
theorem CreatedAfter.mono {n : Nat} (h : CreatedAfter s n) {more : List Request}
    (hmore : t.near.requests = s.near.requests ++ more) : CreatedAfter t n := by
  obtain ⟨⟨v, hv, hcreates⟩, hcount⟩ := h
  refine ⟨⟨v, by rw [hmore]; exact List.mem_append_left _ hv, hcreates⟩, ?_⟩
  rw [hmore, listingsBeforeCreation_append_of_created ⟨v, hv, hcreates⟩, hcount]

/-- Names stay with their workflows, and requests are only added. -/
structure Keeps (s t : Site) : Prop where
  named : ∀ name, t.host.named name = s.host.named name
  owns : ∀ {name id}, s.host.Owns name id → t.host.Owns name id
  requests : ∃ more, t.near.requests = s.near.requests ++ more

omit [Depth] in
theorem Keeps.of_same (h : Site.Same s t) : Keeps s t where
  named := fun name => by rw [h.host]
  owns := fun howns => by rw [h.host]; exact howns
  requests := ⟨[], by rw [h.requests, List.append_nil]⟩

omit [Depth] in
/-- A change that keeps the names of a host keeps what is known of a site. -/
theorem Keeps.of_change {id : String} {changes : Members} (hkeep : s.host.KeepsName id changes)
    (hafter : t.host = (s.after source ⟨.patch, .workflow id, none, some (.obj changes)⟩).host)
    {more : List Request} (hmore : t.near.requests = s.near.requests ++ more) : Keeps s t := by
  have hhost : t.host = s.host.change id changes := hafter.trans (Host.answer_change_snd source s.host id changes)
  refine ⟨fun name => ?_, fun howns => ?_, ⟨more, hmore⟩⟩
  · rw [hhost, Host.named_change hkeep]
  · rw [hhost]
    exact Host.owns_change hkeep howns

/-- Activating a workflow and remembering it keeps what is known of a site. -/
theorem Keeps.of_remembered (source : IdSource) (ctx : DeployContext) (c : Chain) (s : Site) {remote : String}
    {r : Request} (hr : (Phase.activating remote).request? = some r) :
    Keeps s { s.after source r with
      near := ((rememberDeployment ctx c.id remote).run Rehearsal.answer (s.after source r).near).2 } := by
  cases hr
  exact .of_change (Host.keepsName_active s.host remote true) rfl (run_rememberDeployment ctx c.id remote _).2

theorem JoinedSite.keep {remote : String} (hs : JoinedSite ctx c s remote) (h : Keeps s t)
    (hcache : t.near.cache = s.near.cache) (hfiles : t.near.files = s.near.files) : JoinedSite ctx c t remote := by
  obtain ⟨more, hmore⟩ := h.requests
  obtain ⟨n, hn, hcreated⟩ := hs.created
  refine ⟨hs.ne_empty, by rw [h.named, hs.named], h.owns hs.owns, ?_, ⟨n, hn, hcreated.mono hmore⟩⟩
  rw [hcache, hfiles]
  exact hs.cache

omit [Depth] in
theorem SplitSite.keep {remote : String} (hs : SplitSite c s remote) (h : Keeps s t) : SplitSite c t remote := by
  obtain ⟨more, hmore⟩ := h.requests
  exact ⟨by rw [h.named, hs.named], h.owns hs.owns, hs.created.mono hmore⟩

omit [Depth] in
theorem ApartSite.keep {remote other : String} (hs : ApartSite c s remote other) (h : Keeps s t) :
    ApartSite c t remote other := by
  obtain ⟨more, hmore⟩ := h.requests
  exact ⟨hs.ne, by rw [h.named, hs.named], ⟨h.owns hs.owns.1, h.owns hs.owns.2⟩, hs.created.mono hmore⟩

/-! ## Steps and runs -/

/-- A deployment that has come to a workflow keeps to it. -/
theorem holds_step {remote : String} (hp : p.Holds remote) (hstep : Step ctx c org source p s next t) :
    next = .stopped ∨ (next.Holds remote ∧ Keeps s t) := by
  cases hp with
  | activating =>
      rcases hstep.of_activating with rfl | ⟨r, hr, rfl, rfl⟩
      · exact Or.inl rfl
      · exact Or.inr ⟨.returned, .of_remembered source ctx c s hr⟩
  | returned =>
      rcases hstep.of_returned with rfl | ⟨rfl, rfl⟩
      · exact Or.inl rfl
      · exact Or.inr ⟨.returned, .of_same (.refl _)⟩

/-- A listing leaves a cold site cold, and is counted. -/
theorem ColdSite.list {n : Nat} (hs : ColdSite ctx c s n)
    (hsame : Site.Same (s.after source ⟨.get, .workflows, none, none⟩) t) : ColdSite ctx c t (n + 1) := by
  have hrequests : t.near.requests = s.near.requests ++ [⟨.get, .workflows, none, none⟩] := hsame.requests
  refine ⟨hsame.host ▸ hs.named, hsame.cache ▸ hs.cache, hsame.files ▸ hs.files, fun r hr => ?_, ?_⟩
  · rw [hrequests] at hr
    rcases List.mem_append.mp hr with hold | hlast
    · exact hs.requests r hold
    · rw [List.mem_singleton.mp hlast]
      rfl
  · rw [hrequests, listingsBeforeCreation_append hs.requests, hs.count]
    rfl

/-- A step of a cold deployment beside another cold one. -/
theorem cold_step {m n : Nat} (hp : p.Cold c.name m) (hq : q.Cold c.name n) (hs : ColdSite ctx c s (m + n))
    (hstep : Step ctx c org source p s next t) : Joint ctx c t next q := by
  cases hp with
  | start =>
      rcases hstep.of_start with rfl | ⟨_, h, -⟩ | ⟨-, hsame, d, r, hd, hload, ⟨_, hr, -⟩ | ⟨-, rfl⟩⟩
      · exact .stopped (Or.inl rfl)
      · rw [hs.cache] at h
        cases h
      · rw [hs.files r hload] at hr
        cases hr
      · -- a cold site has no entry of the chain: the listing comes next
        have ht : ColdSite ctx c t (0 + n) :=
          ⟨by rw [hsame.host, hs.named], by rw [hsame.cache, hs.cache], hsame.files ▸ hs.files,
            hsame.requests ▸ hs.requests, by rw [hsame.requests, hs.count]⟩
        exact .cold (.listing (compilesTo_name hd)) hq ht
  | listing hd =>
      rcases hstep.of_request rfl nofun with rfl | ⟨hlead, hsame⟩
      · exact .stopped (Or.inl rfl)
      · cases hlead with
        | absent _ =>
            -- one more listing before anything was made
            have ht := hs.list hsame
            rw [Nat.zero_add, Nat.add_comm] at ht
            exact .cold (.creating hd) hq ht
        | present hone =>
            rw [hd, hs.named] at hone
            cases hone
  | creating hd =>
      rcases hstep.of_request rfl nofun with rfl | ⟨hlead, hsame⟩
      · exact .stopped (Or.inl rfl)
      · cases hlead with
        | created =>
            obtain ⟨hnamed, howns, -⟩ := named_creation hd hsame
            rw [hs.named] at hnamed
            have hcreated : CreatedAfter t (1 + n) := by
              have hrequests := hsame.requests
              refine ⟨⟨_, by rw [hrequests]; exact List.mem_append_right _ List.mem_cons_self, rfl⟩, ?_⟩
              rw [hrequests]
              exact (listingsBeforeCreation_append hs.requests _).trans hs.count
            have hjoined : 1 + n < 2 → JoinedSite ctx c t (source.next s.host.ids) := fun hn =>
              ⟨source.next_ne_empty _, hnamed, howns,
                Or.inr ⟨hsame.cache ▸ hs.cache, hsame.files ▸ hs.files⟩, ⟨1 + n, hn, hcreated⟩⟩
            -- whether the other one has listed decides whether it will find the new workflow
            cases hq with
            | start => exact .joined .activating .start (hjoined (by decide))
            | listing hd' => exact .joined .activating (.listing hd') (hjoined (by decide))
            | creating hd' => exact .splitRight .activating hd' ⟨hnamed, howns, hcreated⟩

/-- A step of a deployment that will come to the workflow that is there. -/
theorem joined_step {remote : String} (hp : p.Joined c.name remote) (hq : q.Joined c.name remote)
    (hs : JoinedSite ctx c s remote) (hstep : Step ctx c org source p s next t) : Joint ctx c t next q := by
  cases hp with
  | start =>
      rcases hstep.of_start with rfl | ⟨found, h, rfl, rfl⟩ | ⟨hnone, hsame, d, r, hd, hload, hbegin⟩
      · exact .stopped (Or.inl rfl)
      · -- the cache knows the workflow, as the other one has returned
        rcases hs.cache with hsome | ⟨hnone, -⟩
        · rw [h] at hsome
          cases hsome
          exact .joined .returned hq hs
        · rw [h] at hnone
          cases hnone
      · -- the cache knows nothing yet, nor do the files
        rcases hs.cache with hsome | ⟨-, hfiles⟩
        · rw [hnone] at hsome
          cases hsome
        · rcases hbegin with ⟨_, hr, -⟩ | ⟨-, rfl⟩
          · rw [hfiles r hload] at hr
            cases hr
          · exact .joined (.listing (compilesTo_name hd)) hq (hs.keep (.of_same hsame) hsame.cache hsame.files)
  | listing hd =>
      -- the workflow is there to be found
      have hlisted : (s.host.named c.name).filter (· ≠ "") = [remote] := by
        rw [hs.named]
        simp [hs.ne_empty]
      rcases hstep.of_request rfl nofun with rfl | ⟨hlead, hsame⟩
      · exact .stopped (Or.inl rfl)
      · have hkeeps : Keeps s t := ⟨fun name => by rw [hsame.host]; rfl, fun h => by rw [hsame.host]; exact h,
          ⟨_, hsame.requests⟩⟩
        cases hlead with
        | absent hnone =>
            rw [hd, hlisted] at hnone
            cases hnone
        | present hone =>
            rw [hd, hlisted] at hone
            cases hone
            exact .joined (.updating hd) hq (hs.keep hkeeps hsame.cache hsame.files)
  | updating hd =>
      rcases hstep.of_request rfl nofun with rfl | ⟨hlead, hsame⟩
      · exact .stopped (Or.inl rfl)
      · cases hlead with
        | updated _ =>
            have hname := Host.keepsName_sent fun w hw hid => (hs.owns.2 w hw hid).trans hd.symm
            have hkeeps : Keeps s t := .of_change hname hsame.host hsame.requests
            exact .joined .activating hq (hs.keep hkeeps hsame.cache hsame.files)
  | activating =>
      rcases hstep.of_activating with rfl | ⟨r, hr, rfl, rfl⟩
      · exact .stopped (Or.inl rfl)
      · -- from now on the cache knows the workflow
        have hkeeps := Keeps.of_remembered source ctx c s hr
        obtain ⟨more, hmore⟩ := hkeeps.requests
        obtain ⟨n, hn, hcreated⟩ := hs.created
        refine .joined .returned hq ⟨hs.ne_empty, ?_, hkeeps.owns hs.owns, Or.inl ?_, ⟨n, hn, hcreated.mono hmore⟩⟩
        · rw [hkeeps.named, hs.named]
        · rw [(run_rememberDeployment ctx c.id remote _).1, Registry.get?_insert_self, nonEmpty_of_ne hs.ne_empty]
  | returned =>
      rcases hstep.of_returned with rfl | ⟨rfl, rfl⟩
      · exact .stopped (Or.inl rfl)
      · exact .joined .returned hq hs

/-- **A step of either deployment keeps the invariant.** The cases are those of the invariant; in each the first of the
    two steps, as it is symmetric. -/
theorem joint_step (hjoint : Joint ctx c s p q) (hstep : Step ctx c org source p s next t) : Joint ctx c t next q := by
  cases hjoint with
  | stopped h =>
      rcases h with rfl | h
      · exact .stopped (Or.inl hstep.of_stopped)
      · exact .stopped (Or.inr h)
  | cold hp hq hs => exact cold_step hp hq hs hstep
  | joined hp hq hs => exact joined_step hp hq hs hstep
  | splitLeft hd hq hs =>
      rcases hstep.of_request rfl nofun with rfl | ⟨hlead, hsame⟩
      · exact .stopped (Or.inl rfl)
      · cases hlead with
        | created =>
            -- the second workflow of the name
            obtain ⟨hnamed, hnew, hold⟩ := named_creation hd hsame
            obtain ⟨howns, hne⟩ := hold hs.owns
            have hlength : (t.host.named c.name).length = 2 := by rw [hnamed, hs.named]; rfl
            exact .apart .activating hq ⟨hne.symm, hlength, ⟨hnew, howns⟩, hs.created.mono hsame.requests⟩
  | splitRight hp hd hs =>
      rcases holds_step hp hstep with h | ⟨hnext, hkeeps⟩
      · exact .stopped (Or.inl h)
      · exact .splitRight hnext hd (hs.keep hkeeps)
  | apart hp hq hs =>
      rcases holds_step hp hstep with h | ⟨hnext, hkeeps⟩
      · exact .stopped (Or.inl h)
      · exact .apart hnext hq (hs.keep hkeeps)

/-- Two deployments stand to each other as the invariant says after any turns. -/
theorem joint_interleave {org₁ org₂ : Option String} (schedule : List Bool) {a b : Act String}
    (ha : Phase.At ctx c org₁ p a) (hb : Phase.At ctx c org₂ q b) (hjoint : Joint ctx c s p q) {a' b' : Act String}
    (hrun : interleave (Site.answer source) schedule a b s = (a', b', t)) :
    ∃ p' q', Phase.At ctx c org₁ p' a' ∧ Phase.At ctx c org₂ q' b' ∧ Joint ctx c t p' q' := by
  induction schedule generalizing p q a b s with
  | nil =>
      cases hrun
      exact ⟨p, q, ha, hb, hjoint⟩
  | cons first rest ih =>
      cases first with
      | true =>
          obtain ⟨next, hat, hstep⟩ := turn_step source ha s
          exact ih hat hb (joint_step hjoint hstep) hrun
      | false =>
          obtain ⟨next, hat, hstep⟩ := turn_step source hb s
          exact ih ha hat (joint_step hjoint.symm hstep).symm hrun

/-! ## Convergence -/

/-- Nothing is known of a chain, no workflow has its name, and no request was sent. -/
structure ColdStart (ctx : DeployContext) (c : Chain) (s : Site) : Prop where
  named : s.host.named c.name = []
  cache : nonEmpty (s.near.cache.get? c.id) = none
  files : NoRecord ctx c s.near.files
  requests : s.near.requests = []

theorem ColdStart.joint (h : ColdStart ctx c s) : Joint ctx c s .start .start := by
  refine .cold .start .start ⟨h.named, h.cache, h.files, fun r hr => ?_, ?_⟩
  · rw [h.requests] at hr
    cases hr
  · rw [h.requests]
    rfl

/-- Two deployments that have returned came to one workflow, or to one each. -/
theorem Joint.returned {r₁ r₂ : String} (h : Joint ctx c s (.returned r₁) (.returned r₂)) :
    (r₁ = r₂ ∧ (s.host.named c.name).length = 1 ∧ listingsBeforeCreation s.near.requests < 2)
      ∨ (r₁ ≠ r₂ ∧ (s.host.named c.name).length = 2 ∧ listingsBeforeCreation s.near.requests = 2) := by
  cases h with
  | stopped h => rcases h with h | h <;> cases h
  | cold hp _ _ => cases hp
  | joined hp hq hs =>
      cases hp
      cases hq
      obtain ⟨n, hn, hcreated⟩ := hs.created
      refine Or.inl ⟨rfl, ?_, ?_⟩
      · rw [hs.named]
        rfl
      · rw [hcreated.2]
        exact hn
  | apart hp hq hs =>
      cases hp
      cases hq
      exact Or.inr ⟨hs.ne, hs.named, hs.created.2⟩

theorem loadRegistry_none {path : Option String} (h : nonEmpty path = none) : loadRegistry path = pure [] := by
  unfold nonEmpty at h
  rw [loadRegistry, h]
  rfl

theorem coldStart_empty (c : Chain) (hpath : nonEmpty ctx.registryPath = none) : ColdStart ctx c Site.empty where
  named := rfl
  cache := rfl
  files := by
    rintro r ⟨w, -, hload⟩
    rw [loadRegistry_none hpath] at hload
    cases hload
    rfl
  requests := rfl

end Invariant

/-- **Two cold deployments of a chain converge exactly when they did not both list before a workflow was made.** The
    requests of the two may come in any order. -/
theorem concurrent_deploys_converge_iff (source : IdSource) (ctx : DeployContext) (c : Chain)
    (org₁ org₂ : Option String) (s : Site) (hcold : ColdStart ctx c s) (schedule : List Bool) {r₁ r₂ : String} {t : Site}
    (hrun : interleave (Site.answer source) schedule (ensureDeployed ctx c org₁) (ensureDeployed ctx c org₂) s
      = (done r₁, done r₂, t)) :
    (r₁ = r₂ ∧ (t.host.named c.name).length = 1) ↔ listingsBeforeCreation t.near.requests < 2 := by
  obtain ⟨p, q, hp, hq, hjoint⟩ := joint_interleave schedule .start .start hcold.joint hrun
  rw [hp.eq_returned, hq.eq_returned] at hjoint
  rcases hjoint.returned with ⟨heq, hlength, hcount⟩ | ⟨hne, hlength, hcount⟩
  · exact iff_of_true ⟨heq, hlength⟩ hcount
  · exact iff_of_false (fun h => hne h.1) (by omega)

end

/-! ## A clash -/

/-- The two take turns one for one: both list before either makes a workflow. -/
theorem concurrent_deploys_part : ∃ r₁ r₂ t, ColdStart DeployContext.plain (emptyChain "chain" "Chain") Site.empty
    ∧ interleave (Site.answer .tally) [true, false, true, false, true, false, true, false]
        (ensureDeployed DeployContext.plain (emptyChain "chain" "Chain") none)
        (ensureDeployed DeployContext.plain (emptyChain "chain" "Chain") none) Site.empty = (done r₁, done r₂, t)
    ∧ r₁ ≠ r₂ ∧ (t.host.named "Chain").length = 2 :=
  ⟨"1", "11", _, coldStart_empty _ rfl, eq_of_value? (by decide +kernel) (by decide +kernel), by decide,
    by decide +kernel⟩

/-- The second lists after the first has made a workflow. -/
theorem concurrent_deploys_converge_iff_sample : ∃ r₁ r₂ t,
    interleave (Site.answer .tally) [true, true, true, false, false, true, false, false]
        (ensureDeployed DeployContext.plain (emptyChain "chain" "Chain") none)
        (ensureDeployed DeployContext.plain (emptyChain "chain" "Chain") none) Site.empty = (done r₁, done r₂, t)
    ∧ ((r₁ = r₂ ∧ (t.host.named "Chain").length = 1) ↔ listingsBeforeCreation t.near.requests < 2)
    ∧ listingsBeforeCreation t.near.requests < 2 := by
  refine ⟨"1", "1", _, eq_of_value? (by decide +kernel) (by decide +kernel), ?_, by decide +kernel⟩
  exact concurrent_deploys_converge_iff .tally _ _ none none Site.empty (coldStart_empty _ rfl) _
    (eq_of_value? (by decide +kernel) (by decide +kernel))

end PromptGraph
