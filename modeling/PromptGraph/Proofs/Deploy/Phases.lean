import PromptGraph.Proofs.Compile.DisplayNames
import PromptGraph.Proofs.Deploy.Footprint
import PromptGraph.Proofs.Effect.Turns
import PromptGraph.Proofs.Engine.Host

/-!
# `Proofs.Deploy.Phases` — what a deployment does in a turn

Beside a host a deployment stands in one of a few phases between its requests. `turn_step` says once what a turn does
in each of them: which request is sent, what the host and the cache hold afterwards, and which phase comes next. All
that is shown of deployments beside a host, of one after another as of two at once, is derived from it.

## Contents
- **Operations in a turn.** `turn_operation`, `turn_attempted`, `turn_listing`.
- **Phases.** `Phase`, `Phase.At`, `Phase.request?`.
- **Steps.** `Leads`, `Step`, `turn_step`; `Step.of_start`, `Step.of_request`, `Step.of_activating`: what a step can be.
- **The end.** `Phase.At.eq_returned`.
-/

namespace PromptGraph

open Act Engine Http

variable [Depth]
variable {source : IdSource} {α β : Type}

/-! ## Operations in a turn -/

theorem updateWorkflow_eq (id : String) (changes : Members) :
    updateWorkflow id (.obj changes) = send ⟨.patch, .workflow id, none, some (.obj changes)⟩ >>= fun v =>
      ofExcept (Definition.read (orEmpty v)) := rfl

theorem createWorkflow_eq (d : Definition) :
    createWorkflow d = send ⟨.post, .workflows, none, some (.obj d.sent)⟩ >>= fun v =>
      ofExcept (Definition.read (orEmpty v)) := rfl

theorem finishDeployment_eq (ctx : DeployContext) (chain remote : String) :
    finishDeployment ctx chain remote = updateWorkflow remote (.obj [("active", .bool true)]) >>= fun _ =>
      rememberDeployment ctx chain remote >>= fun _ => pure remote := rfl

namespace Site

/-- A site after a request. -/
def after (source : IdSource) (s : Site) (r : Request) : Site := (answer source (.exchange r) s).2

/-- Host, cache, files and requests are the same. -/
structure Same (s t : Site) : Prop where
  host : t.host = s.host
  cache : t.near.cache = s.near.cache
  files : t.near.files = s.near.files
  requests : t.near.requests = s.near.requests

omit [Depth] in
theorem Same.refl (s : Site) : Same s s := ⟨rfl, rfl, rfl, rfl⟩

omit [Depth] in
theorem Same.trans {a b c : Site} (hab : Same a b) (hbc : Same b c) : Same a c :=
  ⟨hbc.host.trans hab.host, hbc.cache.trans hab.cache, hbc.files.trans hab.files, hbc.requests.trans hab.requests⟩

end Site

theorem settle_send (K : Json → Act β) (r : Request) (s : Site) :
    settle (Site.answer source) (send r >>= K) s = (send r >>= K, s) := by
  rcases send_cases r with h | ⟨e, h, -⟩
  · rw [h]
    rfl
  · rw [h]
    rfl

omit [Depth] in
/-- A result is gone on from, or fails. -/
theorem settle_ofExcept_bind (source : IdSource) (x : Except Failure α) (K : α → Act β) (s : Site) :
    (∃ e, x = .error e ∧ settle (Site.answer source) (ofExcept x >>= K) s = (failed e, s))
      ∨ ∃ a, x = .ok a ∧ settle (Site.answer source) (ofExcept x >>= K) s = settle (Site.answer source) (K a) s := by
  cases x with
  | error e => exact Or.inl ⟨e, rfl, rfl⟩
  | ok a => exact Or.inr ⟨a, rfl, rfl⟩

/-- **A turn of an operation**: its request is refused, or is answered by the host in a way that cannot be used, or is
    answered and gone on from. -/
theorem turn_operation (source : IdSource) (r : Request) (read : Json → Except Failure α) (K : α → Act β) (s : Site) :
    (∃ e, turn (Site.answer source) ((send r >>= fun v => ofExcept (read v)) >>= K) s = (failed e, s))
      ∨ (∃ e, turn (Site.answer source) ((send r >>= fun v => ofExcept (read v)) >>= K) s
          = (failed e, s.after source r))
      ∨ ∃ v a, replyValue r (s.host.answer source r).1 = .ok v ∧ read v = .ok a
        ∧ turn (Site.answer source) ((send r >>= fun v => ofExcept (read v)) >>= K) s
          = settle (Site.answer source) (K a) (s.after source r) := by
  rcases send_cases r with h | ⟨e, h, -⟩
  · rw [h]
    have hturn : turn (Site.answer source)
        ((ask (.exchange r) (fun reply => ofExcept (replyValue r reply)) >>= fun v => ofExcept (read v)) >>= K) s
        = settle (Site.answer source)
            ((ofExcept (replyValue r (s.host.answer source r).1) >>= fun v => ofExcept (read v)) >>= K)
            (s.after source r) := rfl
    rw [hturn, bind_bind]
    rcases settle_ofExcept_bind source (replyValue r (s.host.answer source r).1)
      (fun v => ofExcept (read v) >>= K) (s.after source r) with ⟨e, -, hend⟩ | ⟨v, hv, hend⟩
    · -- an error status
      exact Or.inr (Or.inl ⟨e, hend⟩)
    · -- a value, which is read
      rcases settle_ofExcept_bind source (read v) K (s.after source r) with ⟨e, -, hend'⟩ | ⟨a, ha, hend'⟩
      · exact Or.inr (Or.inl ⟨e, hend.trans hend'⟩)
      · exact Or.inr (Or.inr ⟨v, a, hv, ha, hend.trans hend'⟩)
  · rw [h]
    exact Or.inl ⟨e, rfl⟩

/-- A turn of an attempted operation goes on from its failure as well. -/
theorem turn_attempted (source : IdSource) (r : Request) (read : Json → Except Failure α)
    (K : Except Failure α → Act β) (s : Site) :
    (∃ e, (∀ x, e ≠ .remote x) ∧ turn (Site.answer source) (attempt (send r >>= fun v => ofExcept (read v)) >>= K) s
        = turn (Site.answer source) (K (.error e)) s)
      ∨ turn (Site.answer source) (attempt (send r >>= fun v => ofExcept (read v)) >>= K) s
        = settle (Site.answer source) (K (replyValue r (s.host.answer source r).1 >>= read)) (s.after source r) := by
  rcases send_cases r with h | ⟨e, h, hremote⟩
  · -- sent: the attempt is around the answer and its reading
    right
    rw [h]
    have hturn : turn (Site.answer source)
        (attempt (ask (.exchange r) (fun reply => ofExcept (replyValue r reply))
          >>= fun v => ofExcept (read v)) >>= K) s
        = settle (Site.answer source)
            (attempt (ofExcept (replyValue r (s.host.answer source r).1) >>= fun v => ofExcept (read v)) >>= K)
            (s.after source r) := rfl
    rw [hturn]
    cases replyValue r (s.host.answer source r).1 with
    | error e => rfl
    | ok v =>
        show settle _ (attempt (ofExcept (read v)) >>= K) _ = settle _ (K (read v)) _
        cases read v <;> rfl
  · -- refused beforehand: the turn goes on at once
    left
    rw [h]
    exact ⟨e, hremote, rfl⟩

/-- A turn of a listing: a host tells everything on one page. -/
theorem turn_listing (source : IdSource) (budget : Nat) (K : List Definition → Act β) (s : Site) :
    (∃ e, turn (Site.answer source) (listWorkflows budget >>= K) s = (failed e, s))
      ∨ turn (Site.answer source) (listWorkflows budget >>= K) s = (unfinished, s)
      ∨ turn (Site.answer source) (listWorkflows budget >>= K) s
        = settle (Site.answer source)
            (ofExcept (readEach Definition.read (s.host.map HostedWorkflow.told)) >>= K)
            (s.after source ⟨.get, .workflows, none, none⟩) := by
  cases budget with
  | zero => exact Or.inr (Or.inl rfl)
  | succ budget =>
      unfold listWorkflows listPages listFrom Engine.get
      rcases send_cases ⟨.get, .workflows, (none : Option Json).map cursorParameters, none⟩ with h | ⟨e, h, -⟩
      · rw [h]
        exact Or.inr (Or.inr rfl)
      · rw [h]
        exact Or.inl ⟨e, rfl⟩

theorem settle_listing (budget : Nat) (K : List Definition → Act β) (s : Site) :
    settle (Site.answer source) (listWorkflows budget >>= K) s = (listWorkflows budget >>= K, s) := by
  cases budget with
  | zero => rfl
  | succ budget =>
      unfold listWorkflows listPages listFrom Engine.get
      rw [bind_bind, bind_bind]
      exact settle_send _ _ s

/-! ## Parts without requests -/

omit [Depth] in
theorem answer_of_not_exchange {q : Effect} (hq : q.isExchange = false) (s : Site) :
    Site.answer source q s = ((Rehearsal.answer q s.near).1, { s with near := (Rehearsal.answer q s.near).2 }) := by
  cases q with
  | exchange r => cases hq
  | _ => rfl

omit [Depth] in
/-- A program without requests runs beside a host as it does by itself. -/
theorem run_of_not_exchange {C : Prop} {p : Act α} (hp : p.Asks (fun q => q.isExchange = false) C) (s : Site) :
    p.run (Site.answer source) s
      = ((p.run Rehearsal.answer s.near).1, { s with near := (p.run Rehearsal.answer s.near).2 }) := by
  induction p generalizing s with
  | done a => rfl
  | failed e => rfl
  | unfinished => rfl
  | ask q k ih =>
      rw [run_ask, run_ask, answer_of_not_exchange hp.1]
      exact ih _ (hp.2 _) _

omit [Depth] in
theorem isExchange_of_near (q : Effect) (h : NearEffect q) : q.isExchange = false := by
  cases h with
  | file h =>
      cases h with
      | reading h => cases h <;> rfl
      | _ => rfl
  | _ => rfl

omit [Depth] in
/-- Reading changes nothing but the notices. -/
theorem same_of_reading {C : Prop} {p : Act α} (hp : p.Asks ReadingEffect C) (s : Site) :
    Site.Same s { s with near := (p.run Rehearsal.answer s.near).2 } := by
  obtain ⟨hcache, hfiles, hrequests⟩ := run_of_reading hp s.near
  exact ⟨rfl, hcache, hfiles, hrequests⟩

/-- What is remembered is in the cache, whatever comes of the registry. -/
theorem run_rememberDeployment (ctx : DeployContext) (chain remote : String) (w : Rehearsal) :
    ((rememberDeployment ctx chain remote).run Rehearsal.answer w).2.cache = w.cache.insert chain remote
      ∧ ((rememberDeployment ctx chain remote).run Rehearsal.answer w).2.requests = w.requests := by
  rw [rememberDeployment_eq]
  exact run_of_fileEffect (C := True) (asks_storeRemembered ctx chain remote)
    { w with cache := w.cache.insert chain remote }

/-- A program that has ended without a value. -/
def Halted (p : Act β) : Prop := (∃ e, p = failed e) ∨ p = unfinished

omit [Depth] in
/-- A part that only reads is gone on from with what it came to, or is the end. -/
theorem settle_reading (source : IdSource) {p : Act α} (hp : p.Asks ReadingEffect False) (f : α → Act β) (s : Site) :
    ∃ t, Site.Same s t ∧
      ((∃ a, (p.run Rehearsal.answer s.near).1 = .value a
          ∧ settle (Site.answer source) (p >>= f) s = settle (Site.answer source) (f a) t)
        ∨ ∃ p', Halted p' ∧ settle (Site.answer source) (p >>= f) s = (p', t)) := by
  have hquiet : p.Asks (fun q => q.isExchange = false) False :=
    asks_mono (fun q h => isExchange_of_near q (.file (.reading h))) hp
  refine ⟨_, same_of_reading hp s, ?_⟩
  rw [settle_bind hquiet, run_of_not_exchange hquiet]
  cases hrun : (p.run Rehearsal.answer s.near).1 with
  | value a => exact Or.inl ⟨a, rfl, rfl⟩
  | failure e => exact Or.inr ⟨failed e, Or.inl ⟨e, rfl⟩, rfl⟩
  | cut => exact Or.inr ⟨unfinished, Or.inr rfl, rfl⟩

/-! ## Phases -/

/-- Where a deployment stands between its requests. -/
inductive Phase where
  | start
  | registered (d : Definition) (remote : String)
  | listing (d : Definition)
  | creating (d : Definition)
  | updating (d : Definition) (remote : String)
  | activating (remote : String)
  | returned (remote : String)
  | stopped

variable (ctx : DeployContext) (c : Chain) (org : Option String)

/-- A chain is compiled to a definition for an organization. -/
def CompilesTo (d : Definition) : Prop := compileChain (settingFor ctx.rewrites org c) c = .ok d

namespace Phase

/-- The program with which a deployment goes on in a phase. -/
inductive At : Phase → Act String → Prop where
  | start : At .start (ensureDeployed ctx c org)
  | registered {d : Definition} (hd : CompilesTo ctx c org d) (remote : String) :
      At (.registered d remote)
        ((attempt (updateWorkflow remote d.payload) >>= afterUpdate c.id remote) >>= afterRegistered ctx c.id d)
  | listing {d : Definition} (hd : CompilesTo ctx c org d) :
      At (.listing d) ((listWorkflows ctx.pageBudget >>= writeListed d) >>= finishDeployment ctx c.id)
  | creating {d : Definition} (hd : CompilesTo ctx c org d) :
      At (.creating d) ((createWorkflow d >>= afterCreation) >>= finishDeployment ctx c.id)
  | updating {d : Definition} (hd : CompilesTo ctx c org d) (remote : String) :
      At (.updating d remote)
        ((updateWorkflow remote d.payload >>= fun updated => pure ((nonEmpty updated.id).getD remote))
          >>= finishDeployment ctx c.id)
  | activating (remote : String) : At (.activating remote) (finishDeployment ctx c.id remote)
  | returned (remote : String) : At (.returned remote) (done remote)
  | stopped {p : Act String} (h : Halted p) : At .stopped p

/-- The request that a phase waits to send. -/
def request? : Phase → Option Request
  | .registered d remote => some ⟨.patch, .workflow remote, none, some (.obj d.sent)⟩
  | .listing _ => some ⟨.get, .workflows, none, none⟩
  | .creating d => some ⟨.post, .workflows, none, some (.obj d.sent)⟩
  | .updating d remote => some ⟨.patch, .workflow remote, none, some (.obj d.sent)⟩
  | .activating remote => some ⟨.patch, .workflow remote, none, some (.obj [("active", .bool true)])⟩
  | _ => none

end Phase

/-! ## Steps -/

/-- The phase to which the answer of a host leads. -/
inductive Leads (source : IdSource) : Phase → Host → Phase → Prop where
  | kept {d : Definition} {remote : String} {h : Host} (hmem : remote ∈ h.ids) :
      Leads source (.registered d remote) h (.activating remote)
  | gone {d : Definition} {remote : String} {h : Host} (hmem : remote ∉ h.ids) :
      Leads source (.registered d remote) h (.listing d)
  | absent {d : Definition} {h : Host} (hnamed : (h.named d.name).filter (· ≠ "") = []) :
      Leads source (.listing d) h (.creating d)
  | present {d : Definition} {remote : String} {h : Host} (hnamed : (h.named d.name).filter (· ≠ "") = [remote]) :
      Leads source (.listing d) h (.updating d remote)
  | created {d : Definition} {h : Host} : Leads source (.creating d) h (.activating (source.next h.ids))
  | updated {d : Definition} {remote : String} {h : Host} (hmem : remote ∈ h.ids) :
      Leads source (.updating d remote) h (.activating remote)

/-- A registry is read from files. -/
def Loads (files : Files) (r : Registry) : Prop :=
  ∃ w : Rehearsal, w.files = files ∧ ((loadRegistry ctx.registryPath).run Rehearsal.answer w).1 = .value r

/-- **What a turn does.** From the start the cache and the registry decide; every other phase sends its request, unless
    the request is refused beforehand, and goes on as the answer leads, or stops where the answer cannot be used. -/
inductive Step (source : IdSource) : Phase → Site → Phase → Site → Prop where
  | cached {s : Site} {remote : String} (h : nonEmpty (s.near.cache.get? c.id) = some remote) :
      Step source .start s (.returned remote) s
  | found {s t : Site} {d : Definition} {r : Registry} {remote : String}
      (hcache : nonEmpty (s.near.cache.get? c.id) = none) (hd : CompilesTo ctx c org d)
      (hload : Loads ctx s.near.files r) (hr : nonEmpty (r.get? c.id) = some remote) (hsame : Site.Same s t) :
      Step source .start s (.registered d remote) t
  | missing {s t : Site} {d : Definition} {r : Registry} (hcache : nonEmpty (s.near.cache.get? c.id) = none)
      (hd : CompilesTo ctx c org d) (hload : Loads ctx s.near.files r) (hr : nonEmpty (r.get? c.id) = none)
      (hsame : Site.Same s t) : Step source .start s (.listing d) t
  | unsent {phase : Phase} {s t : Site} (hsame : Site.Same s t) : Step source phase s .stopped t
  | unusable {phase : Phase} {r : Request} {s t : Site} (hr : phase.request? = some r)
      (hsame : Site.Same (s.after source r) t) : Step source phase s .stopped t
  | led {phase next : Phase} {r : Request} {s t : Site} (hr : phase.request? = some r)
      (hlead : Leads source phase s.host next) (hsame : Site.Same (s.after source r) t) : Step source phase s next t
  | remembered {remote : String} {next : Phase} {r : Request} {s : Site}
      (hr : (Phase.activating remote).request? = some r) (hnext : next = .returned remote ∨ next = .stopped) :
      Step source (.activating remote) s next
        { s.after source r with
          near := ((rememberDeployment ctx c.id remote).run Rehearsal.answer (s.after source r).near).2 }
  | idle {phase : Phase} {s : Site} (h : phase = .stopped ∨ ∃ remote, phase = .returned remote) :
      Step source phase s phase s

/-- A turn leads from a phase to the program and the site given. -/
def StepsTo (source : IdSource) (phase : Phase) (s : Site) (x : Act String × Site) : Prop :=
  ∃ next, Phase.At ctx c org next x.1 ∧ Step ctx c org source phase s next x.2

section Turns

variable {ctx : DeployContext} {c : Chain} {org : Option String} {d : Definition} {remote : String}

omit [Depth] in
theorem compilesTo_name (hd : CompilesTo ctx c org d) : d.name = c.name := by
  obtain ⟨compiled, connections, -, -, rfl⟩ := compileChain_parts hd
  rfl

omit [Depth] in
/-- A new workflow is the last of its name, and owns its id. -/
theorem named_creation {s t : Site} (hd : d.name = c.name)
    (h : Site.Same (s.after source ⟨.post, .workflows, none, some (.obj d.sent)⟩) t) :
    t.host.named c.name = s.host.named c.name ++ [source.next s.host.ids]
      ∧ t.host.Owns c.name (source.next s.host.ids)
      ∧ ∀ {id}, s.host.Owns c.name id → t.host.Owns c.name id ∧ id ≠ source.next s.host.ids := by
  have hhost : t.host = s.host ++ [⟨source.next s.host.ids, d.sent⟩] := h.host
  have hname : HostedWorkflow.name ⟨source.next s.host.ids, d.sent⟩ = c.name :=
    hd ▸ HostedWorkflow.name_eq_of_get? d.get?_name_sent
  have hnew := source.next_not_mem s.host.ids
  rw [hhost]
  refine ⟨?_, hname ▸ Host.owns_append hnew, fun howns => ⟨howns.append hnew, fun heq => ?_⟩⟩
  · rw [Host.named_append, if_pos hname]
  · exact hnew (heq ▸ Host.mem_ids_of_mem_named howns.1)

theorem settle_finish (s : Site) :
    settle (Site.answer source) (finishDeployment ctx c.id remote) s = (finishDeployment ctx c.id remote, s) := by
  rw [finishDeployment_eq, updateWorkflow_eq, bind_bind]
  exact settle_send _ _ s

theorem settle_creation {f : Definition → Act α} {g : α → Act β} (s : Site) :
    settle (Site.answer source) ((createWorkflow d >>= f) >>= g) s = ((createWorkflow d >>= f) >>= g, s) := by
  rw [createWorkflow_eq, bind_bind, bind_bind]
  exact settle_send _ _ s

theorem settle_update {f : Definition → Act α} {g : α → Act β} (s : Site) :
    settle (Site.answer source) ((updateWorkflow remote d.payload >>= f) >>= g) s
      = ((updateWorkflow remote d.payload >>= f) >>= g, s) := by
  rw [Definition.payload_eq, updateWorkflow_eq, bind_bind, bind_bind]
  exact settle_send _ _ s

/-- What is read of the answer to a change is the changed workflow. -/
theorem read_change {r : Request} {w : HostedWorkflow} {v : Json} {d : Definition}
    (hv : replyValue r (.answer 200 (.json w.told)) = .ok v) (hd : Definition.read (orEmpty v) = .ok d) :
    d.id = some w.id := by
  cases hv
  exact (read_told hd).1

omit [Depth] in
theorem nonEmpty_getD (id : String) : (nonEmpty (some id)).getD id = id := by
  by_cases h : id = ""
  · subst h
    rfl
  · rw [nonEmpty_of_ne h, Option.getD_some]

theorem stepsTo_unsent {phase : Phase} {s t : Site} {p : Act String} (hp : Halted p) (h : Site.Same s t) :
    StepsTo ctx c org source phase s (p, t) :=
  ⟨.stopped, .stopped hp, .unsent h⟩

theorem stepsTo_unusable {phase : Phase} {r : Request} {s t : Site} {p : Act String} (hp : Halted p)
    (hr : phase.request? = some r) (h : Site.Same (s.after source r) t) : StepsTo ctx c org source phase s (p, t) :=
  ⟨.stopped, .stopped hp, .unusable hr h⟩

omit [Depth] in
theorem halted_failed (e : Failure) : Halted (failed e : Act β) := Or.inl ⟨e, rfl⟩

theorem stepsTo_activating (s : Site) :
    StepsTo ctx c org source (.activating remote) s
      (turn (Site.answer source) (finishDeployment ctx c.id remote) s) := by
  rw [finishDeployment_eq, updateWorkflow_eq]
  rcases turn_operation source ⟨.patch, .workflow remote, none, some (.obj [("active", .bool true)])⟩
    (fun v => Definition.read (orEmpty v)) (fun _ => rememberDeployment ctx c.id remote >>= fun _ => pure remote) s
    with ⟨e, h⟩ | ⟨e, h⟩ | ⟨v, a, -, -, h⟩
  · rw [h]
    exact stepsTo_unsent (halted_failed e) (.refl s)
  · rw [h]
    exact stepsTo_unusable (halted_failed e) rfl (.refl _)
  · -- the workflow is active; whether or not its id can be put into the registry's file, the cache has it
    have hnear : (rememberDeployment ctx c.id remote).Asks (fun q => q.isExchange = false) False :=
      asks_mono isExchange_of_near (asks_rememberDeployment ctx c.id remote)
    have hstep : ∀ next, next = .returned remote ∨ next = .stopped →
        Step ctx c org source (.activating remote) s next _ :=
      fun _ hnext => .remembered rfl hnext
    rw [h, settle_bind hnear, run_of_not_exchange hnear]
    cases ((rememberDeployment ctx c.id remote).run Rehearsal.answer _).1 with
    | value a => exact ⟨.returned remote, .returned remote, hstep _ (Or.inl rfl)⟩
    | failure e => exact ⟨.stopped, .stopped (halted_failed e), hstep _ (Or.inr rfl)⟩
    | cut => exact ⟨.stopped, .stopped (Or.inr rfl), hstep _ (Or.inr rfl)⟩

theorem stepsTo_updating (s : Site) :
    StepsTo ctx c org source (.updating d remote) s
      (turn (Site.answer source) ((updateWorkflow remote d.payload >>= fun updated =>
        pure ((nonEmpty updated.id).getD remote)) >>= finishDeployment ctx c.id) s) := by
  rw [Definition.payload_eq, updateWorkflow_eq, bind_bind]
  rcases turn_operation source ⟨.patch, .workflow remote, none, some (.obj d.sent)⟩
    (fun v => Definition.read (orEmpty v))
    (fun updated => pure ((nonEmpty updated.id).getD remote) >>= finishDeployment ctx c.id) s
    with ⟨e, h⟩ | ⟨e, h⟩ | ⟨v, updated, hv, hread, h⟩
  · rw [h]
    exact stepsTo_unsent (halted_failed e) (.refl s)
  · rw [h]
    exact stepsTo_unusable (halted_failed e) rfl (.refl _)
  · rcases s.host.answer_change source remote d.sent with ⟨hmem, w, hw, ha⟩ | ⟨-, ha⟩
    · -- the answer tells the id that was asked for, which is gone on with
      rw [ha] at hv
      have hid : updated.id = some remote := hw ▸ read_change hv hread
      rw [h, hid, nonEmpty_getD]
      show StepsTo ctx c org source _ s (settle _ (finishDeployment ctx c.id remote) _)
      rw [settle_finish]
      exact ⟨.activating remote, .activating remote, .led rfl (.updated hmem) (.refl _)⟩
    · -- not found is no value
      rw [ha] at hv
      cases hv

theorem stepsTo_creating (s : Site) :
    StepsTo ctx c org source (.creating d) s
      (turn (Site.answer source) ((createWorkflow d >>= afterCreation) >>= finishDeployment ctx c.id) s) := by
  rw [createWorkflow_eq, bind_bind]
  rcases turn_operation source ⟨.post, .workflows, none, some (.obj d.sent)⟩
    (fun v => Definition.read (orEmpty v)) (fun created => afterCreation created >>= finishDeployment ctx c.id) s
    with ⟨e, h⟩ | ⟨e, h⟩ | ⟨v, created, hv, hread, h⟩
  · rw [h]
    exact stepsTo_unsent (halted_failed e) (.refl s)
  · rw [h]
    exact stepsTo_unusable (halted_failed e) rfl (.refl _)
  · -- the answer tells the new id, which is not empty
    have hid : created.id = some (source.next s.host.ids) :=
      read_change (w := ⟨source.next s.host.ids, d.sent⟩) hv hread
    have hafter : afterCreation created = pure (source.next s.host.ids) := by
      rw [afterCreation, hid, nonEmpty_of_ne (source.next_ne_empty _)]
    rw [h, hafter]
    show StepsTo ctx c org source _ s (settle _ (finishDeployment ctx c.id _) _)
    rw [settle_finish]
    exact ⟨.activating _, .activating _, .led rfl .created (.refl _)⟩

theorem stepsTo_listing (hd : CompilesTo ctx c org d) (s : Site) :
    StepsTo ctx c org source (.listing d) s
      (turn (Site.answer source)
        ((listWorkflows ctx.pageBudget >>= writeListed d) >>= finishDeployment ctx c.id) s) := by
  rw [bind_bind]
  rcases turn_listing source ctx.pageBudget
    (fun listed => writeListed d listed >>= finishDeployment ctx c.id) s with ⟨e, h⟩ | h | h
  · rw [h]
    exact stepsTo_unsent (halted_failed e) (.refl s)
  · rw [h]
    exact stepsTo_unsent (Or.inr rfl) (.refl s)
  · rw [h]
    rcases settle_ofExcept_bind source (readEach Definition.read (s.host.map HostedWorkflow.told))
      (fun listed => writeListed d listed >>= finishDeployment ctx c.id)
      (s.after source ⟨.get, .workflows, none, none⟩) with ⟨e, -, h'⟩ | ⟨listed, hread, h'⟩
    · rw [h']
      exact stepsTo_unusable (halted_failed e) rfl (.refl _)
    · -- none, one or more of the name
      rw [h', writeListed, namedIds_told hread]
      cases hnamed : (s.host.named d.name).filter (· ≠ "") with
      | nil =>
          dsimp only
          rw [settle_creation]
          exact ⟨.creating d, .creating hd, .led rfl (.absent hnamed) (.refl _)⟩
      | cons remote rest =>
          cases rest with
          | nil =>
              dsimp only
              rw [settle_update]
              exact ⟨.updating d remote, .updating hd remote, .led rfl (.present hnamed) (.refl _)⟩
          | cons next more => exact stepsTo_unusable (halted_failed _) rfl (.refl _)

omit [Depth] in
theorem read_ne_remote {v : Json} {e : Failure} (h : Definition.read v = .error e) (x : RemoteError) :
    e ≠ .remote x := by
  rcases Checked.toExcept_error h with ⟨fault, rfl⟩ | ⟨-, rfl⟩ <;> nofun

/-- An attempted update is carried on to its request, or stops beforehand. -/
theorem settle_registered (s : Site) :
    settle (Site.answer source)
        ((attempt (updateWorkflow remote d.payload) >>= afterUpdate c.id remote) >>= afterRegistered ctx c.id d) s
      = ((attempt (updateWorkflow remote d.payload) >>= afterUpdate c.id remote)
          >>= afterRegistered ctx c.id d, s) := by
  rw [Definition.payload_eq, updateWorkflow_eq]
  rcases send_cases ⟨.patch, .workflow remote, none, some (.obj d.sent)⟩ with h | ⟨e, h, hremote⟩
  · rw [h]
    rfl
  · rw [h]
    cases e with
    | remote x => exact absurd rfl (hremote x)
    | _ => rfl

theorem stepsTo_registered (hd : CompilesTo ctx c org d) (s : Site) :
    StepsTo ctx c org source (.registered d remote) s
      (turn (Site.answer source)
        ((attempt (updateWorkflow remote d.payload) >>= afterUpdate c.id remote)
          >>= afterRegistered ctx c.id d) s) := by
  rw [Definition.payload_eq, updateWorkflow_eq, bind_bind]
  rcases turn_attempted source ⟨.patch, .workflow remote, none, some (.obj d.sent)⟩
    (fun v => Definition.read (orEmpty v))
    (fun outcome => afterUpdate c.id remote outcome >>= afterRegistered ctx c.id d) s with ⟨e, hremote, h⟩ | h
  · rw [h]
    cases e with
    | remote x => exact absurd rfl (hremote x)
    | _ => exact stepsTo_unsent (halted_failed _) (.refl s)
  · rw [h]
    rcases s.host.answer_change source remote d.sent with ⟨hmem, w, hw, ha⟩ | ⟨hmem, ha⟩
    · -- the registered workflow is there
      rw [ha]
      show StepsTo ctx c org source _ s (settle _ (afterUpdate c.id remote (Definition.read w.told) >>= _) _)
      cases hread : Definition.read w.told with
      | error e =>
          have hschema : ∀ x, e ≠ .remote x := read_ne_remote hread
          cases e with
          | remote x => exact absurd rfl (hschema x)
          | _ => exact stepsTo_unusable (halted_failed _) rfl (.refl _)
      | ok updated =>
          have hid : updated.id = some remote := hw ▸ (read_told hread).1
          rw [afterUpdate, hid, nonEmpty_getD]
          show StepsTo ctx c org source _ s (settle _ (finishDeployment ctx c.id remote) _)
          rw [settle_finish]
          exact ⟨.activating remote, .activating remote, .led rfl (.kept hmem) (.refl _)⟩
    · -- it is gone: a remote error of status 404, which is reported before the listing
      rw [ha]
      show StepsTo ctx c org source _ s (settle _
        ((report (.registeredMissing remote c.id) >>= fun _ => pure none) >>= afterRegistered ctx c.id d) _)
      rw [bind_bind]
      obtain ⟨t, hsame, ⟨_, -, hend⟩ | ⟨p', hp', hend⟩⟩ := settle_reading source
        (p := report (.registeredMissing remote c.id)) (asks_perform (.report _))
        (fun _ => pure none >>= afterRegistered ctx c.id d)
        (s.after source ⟨.patch, .workflow remote, none, some (.obj d.sent)⟩)
      · rw [hend]
        show StepsTo ctx c org source _ s (settle _ (upsertByName ctx d >>= finishDeployment ctx c.id) t)
        rw [upsertByName_eq, bind_bind, settle_listing, ← bind_bind]
        exact ⟨.listing d, .listing hd, .led rfl (.gone hmem) hsame⟩
      · rw [hend]
        exact stepsTo_unusable hp' rfl hsame

/-- The cache answers, or the registry decides where the deployment begins. -/
theorem stepsTo_start (s : Site) :
    StepsTo ctx c org source .start s (turn (Site.answer source) (ensureDeployed ctx c org) s) := by
  rw [ensureDeployed_eq]
  show StepsTo ctx c org source .start s (settle _ (afterLookUp ctx c org (s.near.cache.get? c.id)) s)
  unfold afterLookUp
  cases hcache : nonEmpty (s.near.cache.get? c.id) with
  | some remote => exact ⟨.returned remote, .returned remote, .cached hcache⟩
  | none =>
      dsimp only
      obtain ⟨t₁, h₁, ⟨_, -, hend⟩ | ⟨p', hp', hend⟩⟩ := settle_reading source
        (asks_reportAll (fun n => ReadingEffect.report n) (compileNotices (settingFor ctx.rewrites org c) c))
        (fun _ => ofExcept (compileChain (settingFor ctx.rewrites org c) c) >>= fun d => deployDefinition ctx c.id d) s
      · -- the notices of the compilation are out, and the chain is compiled
        rw [hend]
        rcases settle_ofExcept_bind source (compileChain (settingFor ctx.rewrites org c) c)
          (fun d => deployDefinition ctx c.id d) t₁ with ⟨e, -, hend⟩ | ⟨d, hd, hend⟩
        · rw [hend]
          exact stepsTo_unsent (halted_failed e) h₁
        · rw [hend, deployDefinition_eq, updateRegistered_eq, bind_bind]
          obtain ⟨t₂, h₂, ⟨r, hload, hend⟩ | ⟨p', hp', hend⟩⟩ := settle_reading source
            (asks_loadRegistry ctx.registryPath) (fun r => updateNamed c.id d r >>= afterRegistered ctx c.id d) t₁
          · -- the registry is loaded; it has an entry of the chain or none
            rw [hend, updateNamed]
            cases hr : nonEmpty (r.get? c.id) with
            | some remote =>
                dsimp only
                rw [settle_registered]
                exact ⟨.registered d remote, .registered hd remote,
                  .found hcache hd ⟨t₁.near, h₁.files, hload⟩ hr (h₁.trans h₂)⟩
            | none =>
                show StepsTo ctx c org source _ s (settle _ (upsertByName ctx d >>= finishDeployment ctx c.id) t₂)
                rw [upsertByName_eq, bind_bind, settle_listing, ← bind_bind]
                exact ⟨.listing d, .listing hd, .missing hcache hd ⟨t₁.near, h₁.files, hload⟩ hr (h₁.trans h₂)⟩
          · rw [hend]
            exact stepsTo_unsent hp' (h₁.trans h₂)
      · rw [hend]
        exact stepsTo_unsent hp' h₁

/-- **A turn of a deployment is a step**, whatever the host, the cache and the registry hold. -/
theorem turn_step (source : IdSource) {phase : Phase} {p : Act String} (hat : Phase.At ctx c org phase p) (s : Site) :
    StepsTo ctx c org source phase s (turn (Site.answer source) p s) := by
  cases hat with
  | start => exact stepsTo_start s
  | registered hd remote => exact stepsTo_registered hd s
  | listing hd => exact stepsTo_listing hd s
  | creating hd => exact stepsTo_creating s
  | updating hd remote => exact stepsTo_updating s
  | activating remote => exact stepsTo_activating s
  | returned remote => exact ⟨.returned remote, .returned remote, .idle (Or.inr ⟨remote, rfl⟩)⟩
  | stopped h =>
      rcases h with ⟨e, rfl⟩ | rfl
      · exact ⟨.stopped, .stopped (halted_failed e), .idle (Or.inl rfl)⟩
      · exact ⟨.stopped, .stopped (Or.inr rfl), .idle (Or.inl rfl)⟩

/-! ## What a step can be -/

section Steps

variable {phase next : Phase} {s t : Site}

/-- From the start a deployment stops, or the cache answers, or the registry decides where it begins. -/
theorem Step.of_start (hstep : Step ctx c org source .start s next t) :
    next = .stopped
      ∨ (∃ remote, nonEmpty (s.near.cache.get? c.id) = some remote ∧ next = .returned remote ∧ t = s)
      ∨ (nonEmpty (s.near.cache.get? c.id) = none ∧ Site.Same s t ∧ ∃ d r, CompilesTo ctx c org d
        ∧ Loads ctx s.near.files r ∧ ((∃ remote, nonEmpty (r.get? c.id) = some remote ∧ next = .registered d remote)
          ∨ (nonEmpty (r.get? c.id) = none ∧ next = .listing d))) := by
  cases hstep with
  | cached h => exact Or.inr (Or.inl ⟨_, h, rfl, rfl⟩)
  | found hcache hd hload hr hsame =>
      exact Or.inr (Or.inr ⟨hcache, hsame, _, _, hd, hload, Or.inl ⟨_, hr, rfl⟩⟩)
  | missing hcache hd hload hr hsame => exact Or.inr (Or.inr ⟨hcache, hsame, _, _, hd, hload, Or.inr ⟨hr, rfl⟩⟩)
  | unsent _ => exact Or.inl rfl
  | unusable _ _ => exact Or.inl rfl
  | led hr _ _ => cases hr
  | idle h => rcases h with h | ⟨_, h⟩ <;> cases h

/-- From a request before the last one a deployment stops, or goes where the answer leads. -/
theorem Step.of_request (hstep : Step ctx c org source phase s next t) {r : Request} (hr : phase.request? = some r)
    (hlast : ∀ remote, phase ≠ .activating remote) :
    next = .stopped ∨ (Leads source phase s.host next ∧ Site.Same (s.after source r) t) := by
  cases hstep with
  | unsent _ => exact Or.inl rfl
  | unusable _ _ => exact Or.inl rfl
  | led hr' hlead hsame =>
      cases hr.symm.trans hr'
      exact Or.inr ⟨hlead, hsame⟩
  | remembered _ _ => exact absurd rfl (hlast _)
  | idle h => rcases h with rfl | ⟨_, rfl⟩ <;> cases hr
  | _ => cases hr

/-- From the last request a deployment stops, or returns what it has remembered. -/
theorem Step.of_activating (hstep : Step ctx c org source (.activating remote) s next t) :
    next = .stopped ∨ ∃ r, (Phase.activating remote).request? = some r ∧ next = .returned remote
      ∧ t = { s.after source r with
              near := ((rememberDeployment ctx c.id remote).run Rehearsal.answer (s.after source r).near).2 } := by
  cases hstep with
  | unsent _ => exact Or.inl rfl
  | unusable _ _ => exact Or.inl rfl
  | led _ hlead _ => cases hlead
  | remembered hr hnext =>
      rcases hnext with rfl | rfl
      · exact Or.inr ⟨_, hr, rfl, rfl⟩
      · exact Or.inl rfl
  | idle h => rcases h with h | ⟨_, h⟩ <;> cases h

/-- A deployment that has returned stays as it is. -/
theorem Step.of_returned (hstep : Step ctx c org source (.returned remote) s next t) :
    next = .stopped ∨ (next = .returned remote ∧ t = s) := by
  cases hstep with
  | unsent _ => exact Or.inl rfl
  | unusable _ _ => exact Or.inl rfl
  | led hr _ _ => cases hr
  | idle _ => exact Or.inr ⟨rfl, rfl⟩

/-- A deployment that has stopped stays so. -/
theorem Step.of_stopped (hstep : Step ctx c org source .stopped s next t) : next = .stopped := by
  cases hstep with
  | unsent _ => rfl
  | unusable _ _ => rfl
  | led hr _ _ => cases hr
  | idle _ => rfl

end Steps

/-! ## The end -/

theorem send_bind_ne_done (r : Request) (K : Json → Act β) (a : β) : send r >>= K ≠ done a := by
  rcases send_cases r with h | ⟨e, h, -⟩
  · rw [h]
    nofun
  · rw [h]
    nofun

theorem listing_bind_ne_done (budget : Nat) (K : List Definition → Act β) (a : β) :
    listWorkflows budget >>= K ≠ done a := by
  cases budget with
  | zero => nofun
  | succ budget =>
      unfold listWorkflows listPages listFrom Engine.get
      rw [bind_bind, bind_bind]
      exact send_bind_ne_done _ _ a

theorem attempted_bind_ne_done (chain : String) (f : Option String → Act β) (a : β) :
    (attempt (updateWorkflow remote d.payload) >>= afterUpdate chain remote) >>= f ≠ done a := by
  rw [Definition.payload_eq, updateWorkflow_eq]
  rcases send_cases ⟨.patch, .workflow remote, none, some (.obj d.sent)⟩ with h | ⟨e, h, hremote⟩
  · rw [h]
    nofun
  · rw [h]
    cases e with
    | remote x => exact absurd rfl (hremote x)
    | _ => nofun

/-- A deployment that is done has returned: in every other phase it waits, or has ended otherwise. -/
theorem Phase.At.eq_returned {phase : Phase} (hat : Phase.At ctx c org phase (done remote)) :
    phase = .returned remote := by
  generalize hp : (done remote : Act String) = p at hat
  cases hat with
  | start => cases hp
  | registered hd id => exact absurd hp.symm (attempted_bind_ne_done c.id _ remote)
  | listing hd =>
      rw [bind_bind] at hp
      exact absurd hp.symm (listing_bind_ne_done _ _ remote)
  | creating hd =>
      rw [createWorkflow_eq, bind_bind, bind_bind] at hp
      exact absurd hp.symm (send_bind_ne_done _ _ remote)
  | updating hd id =>
      rw [Definition.payload_eq, updateWorkflow_eq, bind_bind, bind_bind] at hp
      exact absurd hp.symm (send_bind_ne_done _ _ remote)
  | activating id =>
      rw [finishDeployment_eq, updateWorkflow_eq, bind_bind] at hp
      exact absurd hp.symm (send_bind_ne_done _ _ remote)
  | returned id =>
      cases hp
      rfl
  | stopped h =>
      rcases h with ⟨e, rfl⟩ | rfl
      · cases hp
      · cases hp

end Turns

end PromptGraph
