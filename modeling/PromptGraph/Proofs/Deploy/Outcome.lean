import PromptGraph.Proofs.Deploy.Remembering
import PromptGraph.Proofs.Deploy.Sharing

/-!
# `Proofs.Deploy.Outcome` — what a deployment leaves on its host

A deployment that misses the cache and returns an id has put the compiled definition into the workflow of that id and
activated it. No other workflow is touched, and a workflow is added only where there was none to deploy to: the
registry names none that is there, and none has the chain's name.

## Contents
- **Writing.** `Written`: a definition was put into one workflow, by a change or by making it.
- **Steps.** `Undeployed`, `Deposited`, `Phase.Brings`; `brings_of_leads`: what an answer brings about; `brings_step`.
- **The outcome.** `ensureDeployed_outcome`.
-/

namespace PromptGraph

open Act Engine Http

/-! ## Writing -/

namespace Host

/-- A change of a workflow leaves the others as they are. -/
theorem filter_change (h : Host) (id : String) (changes : Members) :
    ((h.change id changes).filter fun w => w.id ≠ id) = h.filter fun w => w.id ≠ id := by
  induction h with
  | nil => rfl
  | cons w rest ih =>
      show List.filter _ ((if w.id = id then { w with members := w.members.merge changes } else w)
        :: change rest id changes) = _
      by_cases hid : w.id = id
      · rw [if_pos hid, List.filter_cons_of_neg (by simp [hid]), List.filter_cons_of_neg (by simp [hid]), ih]
      · rw [if_neg hid, List.filter_cons_of_pos (by simp [hid]), List.filter_cons_of_pos (by simp [hid]), ih]

end Host

/-- A definition was put into the workflow of an id, and nothing else was done. -/
structure Written (d : Definition) (id : String) (before after : Host) : Prop where
  present : ∃ w ∈ after, w.id = id
  carried : ∀ w ∈ after, w.id = id → w.Carries d
  others : (after.filter fun w => w.id ≠ id) = before.filter fun w => w.id ≠ id

namespace Written

variable {d : Definition} {id : String} {h h' : Host}

theorem of_change (hid : id ∈ h.ids) (d : Definition) : Written d id h (h.change id d.sent) := by
  refine ⟨?_, fun w hw heq => ?_, h.filter_change id d.sent⟩
  · rw [← Host.ids_change h id d.sent] at hid
    exact List.mem_map.mp hid
  · obtain ⟨v, -, hvid, ⟨hother, -⟩ | ⟨-, hmembers⟩⟩ := Host.mem_change hw
    · exact absurd (hvid.symm.trans heq) hother
    · obtain ⟨id', members⟩ := w
      cases hmembers
      exact HostedWorkflow.carries_merge_sent _ _ d

theorem of_append (hnew : id ∉ h.ids) (d : Definition) : Written d id h (h ++ [⟨id, d.sent⟩]) := by
  refine ⟨⟨⟨id, d.sent⟩, List.mem_append_right _ List.mem_cons_self, rfl⟩, fun w hw heq => ?_, ?_⟩
  · rcases List.mem_append.mp hw with hold | hlast
    · exact absurd (List.mem_map.mpr ⟨w, hold, heq⟩) hnew
    · rw [List.mem_singleton.mp hlast]
      exact HostedWorkflow.carries_sent id d
  · rw [List.filter_append]
    simp

/-- Activation leaves what was written. -/
theorem activate (hw : Written d id h h') : Written d id h (h'.change id [("active", .bool true)]) := by
  refine ⟨?_, fun w hmem heq => ?_, (h'.filter_change id _).trans hw.others⟩
  · obtain ⟨w, hmem, heq⟩ := hw.present
    have hids : id ∈ (h'.change id [("active", .bool true)]).ids := by
      rw [Host.ids_change]
      exact List.mem_map.mpr ⟨w, hmem, heq⟩
    exact List.mem_map.mp hids
  · obtain ⟨v, hv, hvid, ⟨hother, -⟩ | ⟨hsame, hmembers⟩⟩ := Host.mem_change hmem
    · exact absurd (hvid.symm.trans heq) hother
    · obtain ⟨id', members⟩ := w
      cases hmembers
      exact (hw.carried v hv hsame).merge_active true

end Written

/-- After a workflow was activated it is active. -/
theorem get?_active_of_change {h : Host} {w : HostedWorkflow}
    (hw : w ∈ h.change w.id [("active", .bool true)]) : Members.get? "active" w.members = some (.bool true) := by
  have hnodup : (List.map Prod.fst [("active", Json.bool true)]).Nodup := List.nodup_singleton "active"
  obtain ⟨v, -, hvid, ⟨hother, -⟩ | ⟨-, hmembers⟩⟩ := Host.mem_change hw
  · exact absurd hvid.symm hother
  · rw [hmembers, Members.get?_merge hnodup]
    rfl

/-! ## Steps -/

section Steps

variable [Depth] (ctx : DeployContext) (c : Chain) (org : Option String)

/-- There is no workflow to deploy a chain to: the registry names none that is there, and none has the name. -/
def Undeployed (s : Site) : Prop :=
  (∀ registry, Loads ctx s.near.files registry → ∀ remote, nonEmpty (registry.get? c.id) = some remote →
    remote ∉ s.host.ids) ∧ s.host.named c.name = []

/-- The definition of a chain was put into one workflow of a site's host, a new one only where there was none. -/
structure Deposited (s : Site) (d : Definition) (remote : String) (h : Host) : Prop where
  compiled : CompilesTo ctx c org d
  written : Written d remote s.host h
  added : h.ids = s.host.ids ∨ (h.ids = s.host.ids ++ [remote] ∧ Undeployed ctx c s)

/-- What a deployment that began at a site and did not find its chain in the cache has brought about in a phase. -/
def Phase.Brings (s t : Site) : Phase → Prop
  | .start => t = s
  | .registered d remote => CompilesTo ctx c org d ∧ t.host = s.host
      ∧ ∃ registry, Loads ctx s.near.files registry ∧ nonEmpty (registry.get? c.id) = some remote
  | .listing d => CompilesTo ctx c org d ∧ t.host = s.host
      ∧ ∀ registry, Loads ctx s.near.files registry → ∀ remote, nonEmpty (registry.get? c.id) = some remote →
        remote ∉ s.host.ids
  | .creating d => CompilesTo ctx c org d ∧ t.host = s.host ∧ Undeployed ctx c s
  | .updating d _ => CompilesTo ctx c org d ∧ t.host = s.host
  | .activating remote => ∃ d, Deposited ctx c org s d remote t.host
  | .returned remote => ∃ d, Deposited ctx c org s d remote t.host
      ∧ ∀ w ∈ t.host, w.id = remote → Members.get? "active" w.members = some (.bool true)
  | .stopped => True

end Steps

section Outcome

variable [Depth] {source : IdSource} {ctx : DeployContext} {c : Chain} {org : Option String} {s t u : Site}
  {phase next : Phase}

/-- A definition that was put into a workflow of the host is deposited. -/
theorem Deposited.of_change {d : Definition} {remote : String} (hd : CompilesTo ctx c org d)
    (hmem : remote ∈ s.host.ids) : Deposited ctx c org s d remote (s.host.change remote d.sent) :=
  ⟨hd, .of_change hmem d, Or.inl (Host.ids_change _ _ _)⟩

theorem Deposited.activate {d : Definition} {remote : String} {h : Host} (hd : Deposited ctx c org s d remote h) :
    Deposited ctx c org s d remote (h.change remote [("active", .bool true)]) :=
  ⟨hd.compiled, hd.written.activate, (Host.ids_change h remote _).symm ▸ hd.added⟩

/-- A definition that was sent to a workflow of an untouched host is deposited. -/
theorem Deposited.of_sent {d : Definition} {remote : String} (hd : CompilesTo ctx c org d) (hhost : t.host = s.host)
    (hmem : remote ∈ t.host.ids) (hnext : u.host = t.host.change remote d.sent) :
    Deposited ctx c org s d remote u.host := by
  rw [hhost] at hmem hnext
  rw [hnext]
  exact .of_change hd hmem

/-- A definition of which a workflow was made is deposited, if there was none to deploy to. -/
theorem Deposited.of_made {d : Definition} (hd : CompilesTo ctx c org d) (hhost : t.host = s.host)
    (hundeployed : Undeployed ctx c s) (hnext : u.host = t.host ++ [⟨source.next t.host.ids, d.sent⟩]) :
    Deposited ctx c org s d (source.next t.host.ids) u.host := by
  rw [hhost] at hnext ⊢
  refine ⟨hd, hnext ▸ .of_append (source.next_not_mem _) _, Or.inr ⟨?_, hundeployed⟩⟩
  rw [hnext, Host.ids_append]

/-- The answer of the host decides: the registered workflow is written, or it is gone; the one of the name is written,
    or there is none and one is made. -/
theorem brings_of_leads {r : Request} (hempty : "" ∉ s.host.ids) (hphase : phase.Brings ctx c org s t)
    (hr : phase.request? = some r) (hlead : Leads source phase t.host next) (hsame : Site.Same (t.after source r) u) :
    next.Brings ctx c org s u := by
  cases hlead with
  | kept hmem =>
      obtain ⟨hd, hhost, -⟩ := hphase
      cases hr
      exact ⟨_, .of_sent hd hhost hmem (hsame.host.trans (Host.answer_change_snd source t.host _ _))⟩
  | gone hmem =>
      -- the host is as it was, so the registered workflow was not there
      obtain ⟨hd, hhost, registry, hload, hremote⟩ := hphase
      cases hr
      have hnext := hsame.host.trans (Host.answer_change_snd source t.host _ _)
      rw [Host.change_of_not_mem hmem, hhost] at hnext
      refine ⟨hd, hnext, fun registry' hload' remote' hremote' => ?_⟩
      rw [hload'.unique hload, hremote] at hremote'
      cases hremote'
      exact hhost ▸ hmem
  | absent hnamed =>
      obtain ⟨hd, hhost, hregistered⟩ := hphase
      cases hr
      rw [hhost, Host.filter_named hempty, compilesTo_name hd] at hnamed
      exact ⟨hd, hsame.host.trans hhost, hregistered, hnamed⟩
  | present hnamed =>
      obtain ⟨hd, hhost, -⟩ := hphase
      cases hr
      exact ⟨hd, hsame.host.trans hhost⟩
  | created =>
      obtain ⟨hd, hhost, hundeployed⟩ := hphase
      cases hr
      exact ⟨_, .of_made hd hhost hundeployed hsame.host⟩
  | updated hmem =>
      obtain ⟨hd, hhost⟩ := hphase
      cases hr
      exact ⟨_, .of_sent hd hhost hmem (hsame.host.trans (Host.answer_change_snd source t.host _ _))⟩

/-- **What a step brings about.** From the start it is what the registry names, later what the answers lead to; the last
    request activates what was deposited. -/
theorem brings_step (hmiss : nonEmpty (s.near.cache.get? c.id) = none) (hempty : "" ∉ s.host.ids)
    (hphase : phase.Brings ctx c org s t) (hstep : Step ctx c org source phase t next u) :
    next.Brings ctx c org s u := by
  cases hstep with
  | cached h =>
      cases hphase
      rw [hmiss] at h
      cases h
  | found _ hd hload hr hsame =>
      cases hphase
      exact ⟨hd, hsame.host, _, hload, hr⟩
  | missing _ hd hload hr hsame =>
      cases hphase
      refine ⟨hd, hsame.host, fun registry hload' remote hremote => ?_⟩
      rw [hload'.unique hload, hr] at hremote
      cases hremote
  | unsent _ => trivial
  | unusable _ _ => trivial
  | led hr hlead hsame => exact brings_of_leads hempty hphase hr hlead hsame
  | @remembered remote _ _ _ hr hnext =>
      obtain ⟨d, hdeposited⟩ := hphase
      cases hr
      rcases hnext with rfl | rfl
      · -- the request changes the host, what is remembered does not
        show ∃ d, Deposited ctx c org s d remote (Host.answer source t.host _).2
          ∧ ∀ w ∈ (Host.answer source t.host _).2, w.id = remote → _
        rw [Host.answer_change_snd]
        exact ⟨d, hdeposited.activate, fun w hw hid => get?_active_of_change (hid ▸ hw)⟩
      · trivial
  | idle h =>
      rcases h with rfl | ⟨_, rfl⟩
      · trivial
      · exact hphase

/-! ## The outcome -/

/-- **What a deployment leaves on its host.** When a deployment misses the cache and returns an id, the workflow of that
    id carries the compiled definition and is active, all other workflows are the same, and a workflow was added only
    where the registry named none that was there and none had the chain's name. -/
theorem ensureDeployed_outcome (source : IdSource) (ctx : DeployContext) (c : Chain) (org : Option String) (s : Site)
    (hmiss : nonEmpty (s.near.cache.get? c.id) = none) (hempty : "" ∉ s.host.ids) {r : String} {t : Site}
    (hrun : (ensureDeployed ctx c org).run (Site.answer source) s = (.value r, t)) :
    ∃ d, CompilesTo ctx c org d
      ∧ (∃ w ∈ t.host, w.id = r)
      ∧ (∀ w ∈ t.host, w.id = r → w.Carries d ∧ Members.get? "active" w.members = some (.bool true))
      ∧ ((t.host.filter fun w => w.id ≠ r) = s.host.filter fun w => w.id ≠ r)
      ∧ (t.host.ids = s.host.ids ∨ (t.host.ids = s.host.ids ++ [r] ∧ Undeployed ctx c s)) := by
  have hend := run_of_steps source (I := fun phase t => phase.Brings ctx c org s t) (brings_step hmiss hempty)
    Phase.At.start (rfl : s = s)
  rw [hrun] at hend
  obtain ⟨next, hbrings, ⟨r', rfl, hvalue⟩ | ⟨-, hnone⟩⟩ := hend
  · cases hvalue
    obtain ⟨d, hdeposited, hactive⟩ := hbrings
    refine ⟨d, hdeposited.compiled, hdeposited.written.present, fun w hw hid => ?_, hdeposited.written.others,
      hdeposited.added⟩
    exact ⟨hdeposited.written.carried w hw hid, hactive w hw hid⟩
  · exact absurd rfl (hnone r)

end Outcome

/-- A host with a workflow of another name and an inactive one of the name `Chain`. -/
def occupiedSite : Site :=
  { Site.empty with
    host := [⟨"7", [("name", .str "Other")]⟩, ⟨"8", [("name", .str "Chain"), ("active", .bool false)]⟩] }

theorem ensureDeployed_outcome_occupied : ∃ t,
    (ensureDeployed .plain (emptyChain "chain" "Chain") none).run (Site.answer .tally) occupiedSite = (.value "8", t)
      ∧ ∃ d, CompilesTo .plain (emptyChain "chain" "Chain") none d
        ∧ (∀ w ∈ t.host, w.id = "8" → w.Carries d ∧ Members.get? "active" w.members = some (.bool true))
        ∧ (t.host.filter fun w => w.id ≠ "8") = [⟨"7", [("name", .str "Other")]⟩] := by
  have hrun : (ensureDeployed .plain (emptyChain "chain" "Chain") none).run (Site.answer .tally) occupiedSite
      = (.value "8", _) := Prod.ext (End.value?_eq_some.mp (by decide +kernel)) rfl
  obtain ⟨d, hd, -, hwritten, hothers, -⟩ :=
    ensureDeployed_outcome .tally .plain _ none occupiedSite rfl (by decide) hrun
  exact ⟨_, hrun, d, hd, hwritten, hothers.trans rfl⟩

end PromptGraph
