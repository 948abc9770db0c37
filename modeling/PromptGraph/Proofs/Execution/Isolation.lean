import PromptGraph.Proofs.Compile.Credentials
import PromptGraph.Proofs.Deploy.Safety
import PromptGraph.Proofs.Effect.Asked
import PromptGraph.Proofs.Execution.Lifecycle

/-!
# `Proofs.Execution.Isolation` — organizations do not reach each other's chains, records and credentials

An execution first looks whether its user belongs to the organization and the chain does too. Only then does it write or
send anything, and the definitions that it sends refer to credentials of that organization alone. A record of another
organization is answered for like one that is not there.

## Contents
- **Definitions that are sent.** `Request.definition?`; `Deploys.writesOnly`, `sends_ensureDeployed`.
- **Looking.** `LookingEffect`, `Admits`, `TurnedAway`; `execute_looks`.
- **Credentials.** `sends_execute`.
- **Records.** `status_within`.
- **Isolation.** `Isolated` and `execute_isolated`.
-/

namespace PromptGraph

open Act Engine Http

variable {σ : Type}

-- what a request asks for is known; to unfold its checks takes long
attribute [local irreducible] send

/-! ## Definitions that are sent -/

/-- The definition, or the change of one, that a request writes. -/
def Http.Request.definition? (r : Request) : Option Json :=
  match r.method, r.endpoint with
  | .post, .workflows => r.body
  | .patch, .workflow _ => r.body
  | _, _ => none

/-- What a request writes is the definition, or its activation. -/
def WritesOnly (d : Definition) (r : Request) : Prop :=
  ∀ v, r.definition? = some v → v = d.payload ∨ v = .obj [("active", .bool true)]

section Written

variable [Depth] {d : Definition} {xs : List Exchange} {o : End String}

omit [Depth] in
theorem writesOnly_writeTo (remote : String) : WritesOnly d (writeTo d remote) := by
  rintro v ⟨⟩
  exact Or.inl rfl

omit [Depth] in
theorem writesOnly_making : WritesOnly d (making d) := by
  rintro v ⟨⟩
  exact Or.inl rfl

omit [Depth] in
theorem writesOnly_activation (remote : String) : WritesOnly d (activation remote) := by
  rintro v ⟨⟩
  exact Or.inr rfl

omit [Depth] in
theorem writesOnly_listing {r : Request} (h : r.isListing = true) : WritesOnly d r := by
  intro v hv
  simp only [Request.isListing, Bool.and_eq_true, decide_eq_true_eq] at h
  simp [Request.definition?, h.1] at hv

theorem Writes.writesOnly {r : Request} (hr : WritesOnly d r) (h : Writes r xs o) :
    ∀ x ∈ xs, WritesOnly d x.request :=
  h.forall (fun _ => hr) fun _ ⟨remote, hx⟩ => hx ▸ writesOnly_activation remote

/-- **A deployment writes no definition but its own**, whatever course it takes. -/
theorem Deploys.writesOnly (h : Deploys d xs o) : ∀ x ∈ xs, WritesOnly d x.request := by
  have hunregistered : ∀ {start}, Unregistered d start → ∀ x ∈ start, WritesOnly d x.request := fun hstart =>
    hstart.forall fun _ ⟨remote, hx⟩ _ => hx ▸ writesOnly_writeTo remote
  cases h with
  | registered h => exact h.writesOnly (writesOnly_writeTo _)
  | unlisted hstart hpages _ _ =>
      exact List.forall_mem_append.mpr ⟨hunregistered hstart, fun x hx => writesOnly_listing (hpages x hx)⟩
  | listed hstart hpages _ _ h =>
      refine List.forall_mem_append.mpr ⟨hunregistered hstart, List.forall_mem_append.mpr ⟨?_, ?_⟩⟩
      · exact fun x hx => writesOnly_listing (hpages x hx)
      · cases h with
        | created _ h => exact h.writesOnly writesOnly_making
        | updated _ h => exact h.writesOnly (writesOnly_writeTo _)
        | ambiguous _ => exact List.forall_mem_nil _

end Written

/-- A request writes no definition but one that refers to the credentials of an organization. -/
def WritesFor (org : String) (r : Request) : Prop := ∀ v, r.definition? = some v → RefersOnlyTo (some org) v

theorem writesFor_of_none {org : String} {r : Request} (h : r.definition? = none) : WritesFor org r := by
  intro v hv
  cases h.symm.trans hv

/-- **What a deployment for an organization writes refers to the credentials of that organization.** -/
theorem sends_ensureDeployed [Depth] (ctx : DeployContext) (c : Chain) (org : String) :
    (ensureDeployed ctx c (some org)).Sends (WritesFor org) := by
  unfold ensureDeployed
  refine sends_bind (sends_of_quiet (C := True) (asks_perform rfl)) fun cached => ?_
  split
  · exact sends_of_quiet (C := True) trivial
  refine sends_bind (sends_of_quiet (C := True) (asks_reportAll (fun _ => rfl) _)) fun _ => ?_
  cases hcompiled : compileChain (settingFor ctx.rewrites (some org) c) c with
  | error e => exact sends_of_quiet (C := True) trivial
  | ok d =>
      intro xs o hcourse x hx v hv
      rcases (course_deployDefinition hcourse).writesOnly x hx v hv with rfl | rfl
      · exact compileChain_refersOnlyTo hcompiled
      · exact List.forall_mem_nil _

/-! ## Stages -/

section Stages

variable [Depth] (x : Executor) (request : ExecutionRequest)

/-- The run of a record, whose failure is reported. -/
def runReported (c : Chain) (r : Record) : Act Response :=
  attempt (x.runRecord request c r) >>= fun
    | .ok response => pure response
    | .error failure => report (.executionFailed r.id failure) >>= fun _ => .failed failure

/-- What an execution does for a chain of the organization: it makes a record and runs it. -/
def runAdmitted (c : Chain) : Act Response :=
  clock >>= fun now => x.store (.insert request.chain request.org request.input now) >>= runReported x request c

/-- What an execution does with the store's answer on the chain. -/
def afterChain : Option Chain → Act Response
  | none => .failed (.notFound ("Prompt chain " ++ request.chain ++ " not found"))
  | some c => runAdmitted x request c

/-- What an execution does with the organization of the user. -/
def afterProfile (profile : Json) : Act Response :=
  if profile.asString? ≠ some request.org then
    report (.accessDenied request.user profile request.org) >>= fun _ =>
      .failed (.forbidden "Access denied to this organization")
  else x.store (.chain request.chain request.org) >>= afterChain x request

theorem execute_eq : x.execute request = x.store (.profileOrg request.user) >>= afterProfile x request := rfl

end Stages

/-! ## Looking -/

section Operations

variable {h : Handler σ} {s : σ} {α : Type} {call : StoreCall}

theorem asks_ambient {P : Effect → Prop} {C : Prop} (hcall : P (.store call)) : (Store.ambient call).Asks P C :=
  ⟨hcall, fun _ => asks_ofExcept _⟩

/-- An operation of the store that fails is the end. -/
theorem ambient_error {e : Failure} (he : (h (.store call) s).1 = .error e) (f : call.Answer → Act α) :
    ((Store.ambient call >>= f).run h s).1 = .failure e ∧ asked h (Store.ambient call >>= f) s = [.store call] := by
  have hask : Store.ambient call >>= f = ask (.store call) fun answer => ofExcept answer >>= f := rfl
  rw [hask, run_ask, asked, he]
  exact ⟨rfl, rfl⟩

theorem ambient_ok {a : call.Answer} (ha : (h (.store call) s).1 = .ok a) (f : call.Answer → Act α) :
    (Store.ambient call >>= f).run h s = (f a).run h (h (.store call) s).2
      ∧ asked h (Store.ambient call >>= f) s = .store call :: asked h (f a) (h (.store call) s).2 := by
  have hask : Store.ambient call >>= f = ask (.store call) fun answer => ofExcept answer >>= f := rfl
  rw [hask, run_ask, asked, ha]
  exact ⟨rfl, rfl⟩

end Operations

/-- What is asked for before a request is admitted. -/
inductive LookingEffect (request : ExecutionRequest) : Effect → Prop where
  | profile : LookingEffect request (.store (.profileOrg request.user))
  | chain : LookingEffect request (.store (.chain request.chain request.org))
  | report (notice : Notice) : LookingEffect request (.report notice)

section Execution

variable [Depth] {x : Executor} (h : Handler σ) (request : ExecutionRequest) (s : σ)

/-- What the store answers on the organization of the user. -/
def profileAnswer : Except Failure Json := (h (.store (.profileOrg request.user)) s).1

/-- What the store then answers on the chain in the organization. -/
def chainAnswer : Except Failure (Option Chain) :=
  (h (.store (.chain request.chain request.org)) (h (.store (.profileOrg request.user)) s).2).1

/-- The user belongs to the organization, and the store has the chain in it. -/
def Admits : Prop :=
  ∃ profile c, profileAnswer h request s = .ok profile ∧ profile.asString? = some request.org
    ∧ chainAnswer h request s = .ok (some c)

/-- How a request that is not admitted ends. The organization of the user comes first. -/
inductive TurnedAway : End Response → Prop where
  | noProfile {e : Failure} (hprofile : profileAnswer h request s = .error e) : TurnedAway (.failure e)
  | foreign {profile : Json} (hprofile : profileAnswer h request s = .ok profile)
      (horg : profile.asString? ≠ some request.org) :
      TurnedAway (.failure (.forbidden "Access denied to this organization"))
  | chainUnread {profile : Json} {e : Failure} (hprofile : profileAnswer h request s = .ok profile)
      (horg : profile.asString? = some request.org) (hchain : chainAnswer h request s = .error e) :
      TurnedAway (.failure e)
  | noChain {profile : Json} (hprofile : profileAnswer h request s = .ok profile)
      (horg : profile.asString? = some request.org) (hchain : chainAnswer h request s = .ok none) :
      TurnedAway (.failure (.notFound ("Prompt chain " ++ request.chain ++ " not found")))

/-- **A request is admitted, or turned away after nothing but looking.** -/
theorem execute_looks (hx : x.store = Store.ambient) :
    Admits h request s ∨ (TurnedAway h request s ((x.execute request).run h s).1
      ∧ ∀ q ∈ asked h (x.execute request) s, LookingEffect request q) := by
  rw [execute_eq, hx]
  cases hprofile : profileAnswer h request s with
  | error e =>
      obtain ⟨hrun, hasked⟩ := ambient_error hprofile (afterProfile x request)
      rw [hrun, hasked]
      exact Or.inr ⟨.noProfile hprofile, List.forall_mem_singleton.mpr .profile⟩
  | ok profile =>
      obtain ⟨hrun, hasked⟩ := ambient_ok hprofile (afterProfile x request)
      rw [hrun, hasked, List.forall_mem_cons]
      unfold afterProfile
      by_cases horg : profile.asString? = some request.org
      · -- only now is the chain looked for
        rw [if_neg (not_not_intro horg), hx]
        cases hchain : chainAnswer h request s with
        | error e =>
            obtain ⟨hrun', hasked'⟩ := ambient_error hchain (afterChain x request)
            rw [hrun', hasked']
            exact Or.inr ⟨.chainUnread hprofile horg hchain, .profile, List.forall_mem_singleton.mpr .chain⟩
        | ok found =>
            cases found with
            | some c => exact Or.inl ⟨profile, c, hprofile, horg, hchain⟩
            | none =>
                obtain ⟨hrun', hasked'⟩ := ambient_ok hchain (afterChain x request)
                rw [hrun', hasked']
                exact Or.inr ⟨.noChain hprofile horg hchain, .profile, List.forall_mem_singleton.mpr .chain⟩
      · rw [if_pos horg]
        exact Or.inr ⟨.foreign hprofile horg, .profile, List.forall_mem_singleton.mpr (.report _)⟩

end Execution

/-! ## Credentials -/

section Credentials

variable [Depth] {x : Executor} {request : ExecutionRequest}

omit [Depth] in
theorem asks_finalize {P : Effect → Prop} (hx : x.store = Store.ambient) (r : Record) (e : EngineExecution)
    (hreport : ∀ notice, P (.report notice)) (hclock : P .clock) (hcomplete : ∀ c, P (.store (.complete r.id c)))
    (hrollup : ∀ c, P (.store (.rollup (Executor.rollupOf r c)))) : (x.finalize r e).Asks P False := by
  unfold Executor.finalize
  rw [hx]
  refine asks_bind (asks_reportAll hreport _) fun _ => asks_bind (asks_reportAll hreport _) fun _ =>
    asks_bind (asks_perform hclock) fun _ => asks_bind (asks_ofExcept _) fun _ => asks_bind (asks_perform hclock)
      fun _ => asks_bind (asks_ambient (hcomplete _)) fun _ =>
        asks_bind (asks_attempt (asks_ambient (hrollup _))) fun outcome => ?_
  cases outcome with
  | ok _ => exact asks_ofExcept _
  | error failure => exact asks_bind (asks_perform (hreport _)) fun _ => asks_ofExcept _

theorem sends_runRecord (hx : x.store = Store.ambient) (c : Chain) (r : Record) :
    (x.runRecord request c r).Sends (WritesFor request.org) := by
  unfold Executor.runRecord
  rw [hx]
  have hstart : ∀ remote input, (executeWorkflow remote input).Sends (WritesFor request.org) := fun remote input =>
    sends_of_asks (C := True) (asks_executeWorkflow (fun _ _ hr => by cases hr; exact writesFor_of_none rfl) input)
  have hpoll : ∀ started, (x.poller.wait started).Sends (WritesFor request.org) := fun started =>
    sends_of_asks (asks_wait (fun _ _ _ hr => by cases hr; exact writesFor_of_none rfl) (fun _ _ hr => by cases hr)
      (fun _ _ hr => by cases hr) x.poller started)
  -- the deployment is the only part that sends a definition
  refine sends_bind (sends_ensureDeployed x.deploy c request.org) fun remote => ?_
  refine sends_bind (sends_of_quiet (C := True) (asks_perform rfl)) fun _ => ?_
  refine sends_bind (hstart _ _) fun started => ?_
  refine sends_bind (sends_of_quiet (C := True) (asks_ambient rfl)) fun _ => ?_
  refine sends_bind (hpoll started) fun finished => ?_
  exact sends_of_quiet (asks_finalize (P := fun q => q.isExchange = false) hx r finished (fun _ => rfl) rfl
    (fun _ => rfl) fun _ => rfl)

/-- **The definitions that an execution sends refer to the credentials of its organization alone.** -/
theorem sends_execute (hx : x.store = Store.ambient) : (x.execute request).Sends (WritesFor request.org) := by
  have hstore : ∀ call, (Store.ambient call).Sends (WritesFor request.org) := fun call =>
    sends_of_quiet (C := True) (asks_ambient rfl)
  rw [execute_eq, hx]
  refine sends_bind (hstore _) fun profile => ?_
  unfold afterProfile
  split
  · exact sends_of_quiet (C := True) (asks_bind (asks_perform rfl) fun _ => trivial)
  rw [hx]
  refine sends_bind (hstore _) fun found => ?_
  cases found with
  | none => exact sends_of_quiet (C := True) trivial
  | some c =>
      rw [afterChain, runAdmitted, hx]
      refine sends_bind (sends_of_quiet (C := True) (asks_perform rfl)) fun _ => sends_bind (hstore _) fun r => ?_
      refine sends_bind (sends_attempt (sends_runRecord hx c r)) fun outcome => ?_
      cases outcome with
      | ok response => exact sends_of_quiet (C := True) trivial
      | error failure => exact sends_of_quiet (C := True) (asks_bind (asks_perform rfl) fun _ => trivial)

end Credentials

/-! ## Records -/

section Records

variable {x : Executor} (h : Handler σ) (id : String) (s : σ)

/-- What the store answers on a record. -/
def recordAnswer : Except Failure (Option Record) := (h (.store (.record id)) s).1

/-- The end of a query of a status within an organization. -/
inductive StatusWithin (org : String) : End Response → Prop where
  | unread {e : Failure} (hrecord : recordAnswer h id s = .error e) : StatusWithin org (.failure e)
  | own {r : Record} (hrecord : recordAnswer h id s = .ok (some r)) (horg : r.org = org) :
      StatusWithin org (endOf (Response.ofRecord r))
  | foreign {r : Record} (hrecord : recordAnswer h id s = .ok (some r)) (horg : r.org ≠ org) :
      StatusWithin org (.failure (.notFound "Execution not found"))
  | missing (hrecord : recordAnswer h id s = .ok none) :
      StatusWithin org (.failure (.notFound "Execution not found"))

/-- What a query of a status does with the store's answer. -/
def afterRecord (org : Option String) (found : Option Record) : Act Response :=
  match found.filter fun r => org.all fun o => r.org = o with
  | none => .failed (.notFound "Execution not found")
  | some r => ofExcept (Response.ofRecord r)

theorem status_eq (org : Option String) : x.status id org = x.store (.record id) >>= afterRecord org := rfl

theorem afterRecord_own {org : String} {r : Record} (horg : r.org = org) :
    afterRecord (some org) (some r) = ofExcept (Response.ofRecord r) := by
  simp [afterRecord, Option.filter_some, horg]

theorem afterRecord_foreign {org : String} {r : Record} (horg : r.org ≠ org) :
    afterRecord (some org) (some r) = .failed (.notFound "Execution not found") := by
  simp [afterRecord, Option.filter_some, horg]

/-- **A status is answered for a record of the organization alone**, and the store is asked for nothing else. -/
theorem status_within (hx : x.store = Store.ambient) (org : String) :
    StatusWithin h id s org ((x.status id (some org)).run h s).1
      ∧ asked h (x.status id (some org)) s = [.store (.record id)] := by
  rw [status_eq, hx]
  cases hrecord : recordAnswer h id s with
  | error e =>
      obtain ⟨hrun, hasked⟩ := ambient_error hrecord (afterRecord (some org))
      rw [hrun, hasked]
      exact ⟨.unread hrecord, rfl⟩
  | ok found =>
      obtain ⟨hrun, hasked⟩ := ambient_ok hrecord (afterRecord (some org))
      rw [hrun, hasked]
      cases found with
      | none => exact ⟨.missing hrecord, rfl⟩
      | some r =>
          by_cases horg : r.org = org
          · rw [afterRecord_own horg, run_ofExcept]
            exact ⟨.own hrecord horg, congrArg (_ :: ·) (asked_ofExcept h _ _)⟩
          · rw [afterRecord_foreign horg]
            exact ⟨.foreign hrecord horg, rfl⟩

end Records

/-! ## Isolation -/

/-- **What an execution keeps apart.** -/
structure Isolated [Depth] (x : Executor) (h : Handler σ) (request : ExecutionRequest) (s : σ) : Prop where
  /-- Whatever is not looking is asked for on behalf of an admitted request: a record is made, and a request sent. -/
  admitted : (∃ q ∈ asked h (x.execute request) s, ¬ LookingEffect request q) → Admits h request s
  /-- Another request is turned away. -/
  turnedAway : ¬ Admits h request s → TurnedAway h request s ((x.execute request).run h s).1
  /-- What is sent of definitions refers to the credentials of the organization. -/
  definitions : ∀ r, .exchange r ∈ asked h (x.execute request) s → WritesFor request.org r

/-- **Executions of one organization reach no chain, no record and no credentials of another**, whatever the store and
    the engine answer. A record of another organization is answered for like a missing one. -/
theorem execute_isolated [Depth] {x : Executor} (hx : x.store = Store.ambient) (h : Handler σ) :
    (∀ request s, Isolated x h request s)
      ∧ ∀ id org s, StatusWithin h id s org ((x.status id (some org)).run h s).1
        ∧ asked h (x.status id (some org)) s = [.store (.record id)] := by
  refine ⟨fun request s => ?_, fun id org s => status_within h id s hx org⟩
  have hlooks := execute_looks h request s hx
  constructor
  case admitted =>
    rintro ⟨q, hq, hnot⟩
    rcases hlooks with hadmits | ⟨-, hall⟩
    · exact hadmits
    · exact absurd (hall q hq) hnot
  case turnedAway =>
    intro hnot
    exact (hlooks.resolve_left hnot).1
  case definitions => exact fun r hr => (sends_execute hx).of_asked hr

/-- A request on behalf of a user whom the store does not know. -/
def strangerRequest : ExecutionRequest := ⟨"chain", "org", "stranger", []⟩

theorem execute_isolated_stranger : sampleExecutor.store = Store.ambient
    ∧ ¬ Admits Rehearsal.answer strangerRequest sampleSurroundings
    ∧ TurnedAway Rehearsal.answer strangerRequest sampleSurroundings
        ((sampleExecutor.execute strangerRequest).run Rehearsal.answer sampleSurroundings).1
    ∧ Admits Rehearsal.answer sampleRequest sampleSurroundings
    ∧ Isolated sampleExecutor Rehearsal.answer sampleRequest sampleSurroundings := by
  have hstranger : ¬ Admits Rehearsal.answer strangerRequest sampleSurroundings := by
    rintro ⟨profile, c, hprofile, horg, -⟩
    cases hprofile
    cases horg
  refine ⟨rfl, hstranger, ?_, ⟨_, _, rfl, rfl, rfl⟩, (execute_isolated rfl Rehearsal.answer).1 _ _⟩
  exact ((execute_isolated rfl Rehearsal.answer).1 strangerRequest sampleSurroundings).turnedAway hstranger

end PromptGraph
