import PromptGraph.Proofs.Deploy.Phases
import PromptGraph.Proofs.Engine.Listing

/-!
# `Proofs.Deploy.Writes` — what a deployment writes, whatever it is answered

A deployment writes to the registered workflow; or it lists, and then writes to the one workflow of its name or makes
one. `Deploys` says once which courses that gives, beside any engine; the safety of the writes is read off it.

## Contents
- **Requests.** `writeTo`, `making`, `activation`.
- **Courses.** `Finishes`, `Writes`, `WritesListed`, `Deploys`; the courses of each stage, from `course_finishDeployment`
  to `course_deployDefinition`.
-/

namespace PromptGraph

open Act Engine Http

variable [Depth]

/-! ## Requests -/

/-- Writes a definition to a workflow. -/
def writeTo (d : Definition) (remote : String) : Request := ⟨.patch, .workflow remote, none, some d.payload⟩

/-- Makes a workflow of a definition. -/
def making (d : Definition) : Request := ⟨.post, .workflows, none, some d.payload⟩

/-- Activates a workflow. -/
def activation (remote : String) : Request := ⟨.patch, .workflow remote, none, some (.obj [("active", .bool true)])⟩

theorem updateWorkflow_payload (remote : String) (d : Definition) :
    updateWorkflow remote d.payload = send (writeTo d remote) >>= fun v => ofExcept (Definition.read (orEmpty v)) := by
  rw [writeTo, Definition.payload_eq]
  exact updateWorkflow_eq remote d.sent

/-! ## Courses -/

/-- Nothing is returned. -/
def Act.End.Fruitless {α : Type} (o : End α) : Prop := ∀ a, o ≠ .value a

/-- A workflow is activated, and its id returned if all goes well. -/
inductive Finishes (remote : String) : List Exchange → End String → Prop where
  | refused {o : End String} (ho : o.Fruitless) : Finishes remote [] o
  | sent {reply : Reply} {o : End String}
      (ho : ∀ r, o = .value r → r = remote ∧ Exchange.succeeded ⟨activation remote, reply⟩ = true) :
      Finishes remote [⟨activation remote, reply⟩] o

/-- A definition is written by a request, and the workflow that then has it is activated. -/
inductive Writes (r : Request) : List Exchange → End String → Prop where
  | refused {e : Failure} (hrefused : send r = failed e) : Writes r [] (.failure e)
  | failed {reply : Reply} {o : End String} (ho : o.Fruitless) : Writes r [⟨r, reply⟩] o
  | written {reply : Reply} {remote : String} {xs : List Exchange} {o : End String}
      (hwritten : Exchange.succeeded ⟨r, reply⟩ = true) (hremote : remote ≠ "") (hend : Finishes remote xs o) :
      Writes r (⟨r, reply⟩ :: xs) o

/-- What is written after a listing: to the one workflow of the name, or to a new one. -/
inductive WritesListed (d : Definition) (listed : List Definition) : List Exchange → End String → Prop where
  | created {xs : List Exchange} {o : End String} (hnamed : namedIds d.name listed = [])
      (h : Writes (making d) xs o) : WritesListed d listed xs o
  | updated {existing : String} {xs : List Exchange} {o : End String} (hnamed : namedIds d.name listed = [existing])
      (h : Writes (writeTo d existing) xs o) : WritesListed d listed xs o
  | ambiguous (hnamed : 2 ≤ (namedIds d.name listed).length) :
      WritesListed d listed [] (.failure (.ambiguousDeployment d.name (namedIds d.name listed)))

/-- There is no registered workflow, or it was not found when it was written to. -/
def Unregistered (d : Definition) (xs : List Exchange) : Prop :=
  xs = [] ∨ ∃ remote reply, xs = [⟨writeTo d remote, reply⟩] ∧ Exchange.succeeded ⟨writeTo d remote, reply⟩ = false

/-- **The courses of a deployment**: it writes to the registered workflow; or comes to no list of workflows, because the
    listing is not complete or an entry is no workflow; or goes on from the workflows that are listed. -/
inductive Deploys (d : Definition) : List Exchange → End String → Prop where
  | registered {remote : String} {xs : List Exchange} {o : End String} (h : Writes (writeTo d remote) xs o) :
      Deploys d xs o
  | unlisted {start pages : List Exchange} {o : End String} (hstart : Unregistered d start)
      (hpages : ∀ x ∈ pages, x.request.isListing = true) (ho : o.Fruitless)
      (hitems : ∀ items, Lists .workflows none pages items →
        ∃ e, readEach Definition.read items = .error e ∧ o = .failure e) : Deploys d (start ++ pages) o
  | listed {start pages xs : List Exchange} {items : List Json} {listed : List Definition} {o : End String}
      (hstart : Unregistered d start) (hpages : ∀ x ∈ pages, x.request.isListing = true)
      (hlists : Lists .workflows none pages items) (hread : readEach Definition.read items = .ok listed)
      (h : WritesListed d listed xs o) : Deploys d (start ++ (pages ++ xs)) o

section Courses

variable {ctx : DeployContext} {chain remote : String} {d : Definition} {xs : List Exchange}

omit [Depth] in
theorem fruitless_failure {α : Type} (e : Failure) : (End.failure e : End α).Fruitless := nofun

omit [Depth] in
theorem fruitless_cut {α : Type} : (End.cut : End α).Fruitless := nofun

theorem course_finishDeployment {o : End String} (h : Course (finishDeployment ctx chain remote) xs o) :
    Finishes remote xs o := by
  rw [finishDeployment_eq, updateWorkflow_eq] at h
  rcases course_operation_bind h with ⟨rfl, e, -, rfl⟩ | ⟨reply, e, rfl, rfl⟩ |
    ⟨reply, v, updated, ys, hvalue, -, rfl, hrest⟩
  · exact .refused (fruitless_failure e)
  · exact .sent nofun
  · -- what is done after the activation sends nothing, and returns the id
    have hnear : (rememberDeployment ctx chain remote >>= fun _ => pure remote).Asks (fun q => q.isExchange = false)
        True :=
      asks_bind (asks_mono isExchange_of_near (asks_rememberDeployment ctx chain remote)) fun _ => trivial
    cases course_quiet hnear hrest
    replace hrest : Course (rememberDeployment ctx chain remote >>= fun _ => ofExcept (.ok remote)) [] o := hrest
    obtain ⟨ended, -, -, hbrought⟩ := course_bind_ofExcept hrest
    refine .sent fun r hr => ?_
    obtain ⟨_, -, hread⟩ := hbrought r hr
    exact ⟨(Except.ok.inj hread).symm, succeeded_of_value hvalue⟩

/-- An operation that writes a definition, and then the activation of the workflow that has it. -/
theorem course_writes {r : Request} {f : Definition → Act String} {o : End String}
    (hf : ∀ {a ys}, Course (f a) ys o → (ys = [] ∧ o.Fruitless) ∨ ∃ remote, remote ≠ "" ∧ Finishes remote ys o)
    (h : Course ((send r >>= fun v => ofExcept (Definition.read (orEmpty v))) >>= f) xs o) : Writes r xs o := by
  rcases course_operation_bind h with ⟨rfl, e, hrefused, rfl⟩ | ⟨reply, e, rfl, rfl⟩ |
    ⟨reply, v, a, ys, hvalue, -, rfl, hrest⟩
  · exact .refused hrefused
  · exact .failed (fruitless_failure e)
  · rcases hf hrest with ⟨rfl, ho⟩ | ⟨remote, hne, hend⟩
    · exact .failed ho
    · exact .written (succeeded_of_value hvalue) hne hend

omit [Depth] in
theorem nonEmpty_getD_ne {o : Option String} {id : String} (h : id ≠ "") : (nonEmpty o).getD id ≠ "" := by
  cases ho : nonEmpty o with
  | none => exact h
  | some s => exact (nonEmpty_eq_some.mp ho).2

omit [Depth] in
theorem ne_of_mem_namedIds {name id : String} {listed : List Definition} (h : id ∈ namedIds name listed) : id ≠ "" := by
  obtain ⟨w, -, hw⟩ := List.mem_filterMap.mp h
  split at hw
  · exact (nonEmpty_eq_some.mp hw).2
  · cases hw

/-- What follows a listing writes to the workflow of the name, or makes one. -/
theorem course_writeListed {listed : List Definition} {o : End String}
    (h : Course (writeListed d listed >>= finishDeployment ctx chain) xs o) : WritesListed d listed xs o := by
  unfold writeListed at h
  cases hnamed : namedIds d.name listed with
  | nil =>
      rw [hnamed] at h
      dsimp only at h
      rw [createWorkflow_eq, bind_bind] at h
      refine .created hnamed (course_writes (fun {created ys} hrest => ?_) h)
      unfold afterCreation at hrest
      cases hid : nonEmpty created.id with
      | none =>
          -- an answer without an id
          rw [hid] at hrest
          cases hrest
          exact Or.inl ⟨rfl, fruitless_failure _⟩
      | some id =>
          rw [hid] at hrest
          exact Or.inr ⟨id, (nonEmpty_eq_some.mp hid).2, course_finishDeployment hrest⟩
  | cons existing more =>
      rw [hnamed] at h
      cases more with
      | nil =>
          dsimp only at h
          rw [updateWorkflow_payload, bind_bind] at h
          have hne : existing ≠ "" := ne_of_mem_namedIds (hnamed ▸ List.mem_cons_self)
          exact .updated hnamed
            (course_writes (fun hrest => Or.inr ⟨_, nonEmpty_getD_ne hne, course_finishDeployment hrest⟩) h)
      | cons next rest =>
          cases h
          rw [← hnamed]
          exact .ambiguous (by simp [hnamed])

/-- What is done where no registered workflow was written to: a listing, and what follows it. -/
theorem course_upsert {start : List Exchange} {o : End String} (hstart : Unregistered d start)
    (h : Course (upsertByName ctx d >>= finishDeployment ctx chain) xs o) : Deploys d (start ++ xs) o := by
  rw [upsertByName_eq, bind_bind] at h
  rcases course_bind h with ⟨listed, pages, ws, hlisting, hrest, rfl⟩ | ⟨e, hlisting, rfl⟩ | ⟨hlisting, rfl⟩
  · obtain ⟨hpages, -, hlisted⟩ := course_listWorkflows hlisting
    obtain ⟨items, hlists, hread⟩ := hlisted listed rfl
    exact .listed hstart hpages hlists hread (course_writeListed hrest)
  · obtain ⟨hpages, hitems, -⟩ := course_listWorkflows hlisting
    exact .unlisted hstart hpages (fruitless_failure e) fun items hlists =>
      ⟨e, endOf_eq_failure.mp (hitems items hlists).symm, rfl⟩
  · obtain ⟨hpages, hitems, -⟩ := course_listWorkflows hlisting
    exact .unlisted hstart hpages fruitless_cut fun items hlists =>
      absurd (hitems items hlists).symm (endOf_ne_cut _)

omit [Depth] in
/-- An update that failed is the end, unless the workflow is gone. -/
theorem afterUpdate_error (chain remote : String) (e : Failure) :
    afterUpdate chain remote (.error e) = failed e
      ∨ ∃ x, e = .remote x ∧ x.status = some 404
        ∧ afterUpdate chain remote (.error e) = report (.registeredMissing remote chain) >>= fun _ => pure none := by
  cases e with
  | remote x =>
      by_cases hmissing : x.status = some 404
      · exact Or.inr ⟨x, rfl, hmissing, if_pos hmissing⟩
      · exact Or.inl (if_neg hmissing)
  | _ => exact Or.inl rfl

/-- What follows the registry's answer writes to the registered workflow, and goes on without it where it is gone. -/
theorem course_updateNamed {r : Registry} {o : End String}
    (h : Course (updateNamed chain d r >>= afterRegistered ctx chain d) xs o) : Deploys d xs o := by
  unfold updateNamed at h
  cases hnamed : nonEmpty (r.get? chain) with
  | none =>
      rw [hnamed] at h
      exact course_upsert (Or.inl rfl) h
  | some remote =>
      rw [hnamed] at h
      dsimp only at h
      rw [bind_bind, updateWorkflow_payload] at h
      rcases course_attempt_operation h with ⟨e, hrefused, hremote, hrest⟩ | ⟨reply, ys, rfl, hrest⟩
      · -- refused beforehand
        rcases afterUpdate_error chain remote e with hafter | ⟨x, rfl, -⟩
        · rw [hafter] at hrest
          cases hrest
          exact .registered (.refused hrefused)
        · exact absurd rfl (hremote x)
      · cases houtcome : (replyValue (writeTo d remote) reply >>= fun v => Definition.read (orEmpty v)) with
        | ok updated =>
            obtain ⟨v, hvalue, -⟩ := bind_eq_ok.mp houtcome
            rw [houtcome] at hrest
            exact .registered (.written (succeeded_of_value hvalue)
              (nonEmpty_getD_ne (nonEmpty_eq_some.mp hnamed).2) (course_finishDeployment hrest))
        | error e =>
            rw [houtcome] at hrest
            rcases afterUpdate_error chain remote e with hafter | ⟨x, rfl, hmissing, hafter⟩
            · rw [hafter] at hrest
              cases hrest
              exact .registered (.failed (fruitless_failure e))
            · -- it is gone, which is reported before the listing
              have hgone : replyValue (writeTo d remote) reply = .error (.remote x) := by
                rcases bind_eq_error.mp houtcome with hvalue | ⟨v, -, hread⟩
                · exact hvalue
                · exact absurd rfl (read_ne_remote hread x)
              rw [hafter, bind_bind] at hrest
              cases hrest with
              | ask _ hlast =>
                  exact course_upsert (Or.inr ⟨remote, reply, rfl, not_succeeded_of_missing hgone hmissing⟩) hlast

/-- **A deployment takes no other course**, whatever its engine answers and its files hold. -/
theorem course_deployDefinition {o : End String} (h : Course (deployDefinition ctx chain d) xs o) :
    Deploys d xs o := by
  rw [deployDefinition_eq, updateRegistered_eq, bind_bind] at h
  have hquiet : (loadRegistry ctx.registryPath).Asks (fun q => q.isExchange = false) True :=
    asks_mono (fun q hq => by cases hq <;> rfl) (asks_loadRegistry ctx.registryPath)
  rcases course_bind h with ⟨r, ys, zs, hload, hrest, rfl⟩ | ⟨e, hload, rfl⟩ | ⟨hload, rfl⟩
  · cases course_quiet hquiet hload
    exact course_updateNamed hrest
  · cases course_quiet hquiet hload
    exact .unlisted (Or.inl rfl) (List.forall_mem_nil _) (fruitless_failure e) fun items hlists =>
      absurd rfl hlists.ne_nil
  · cases course_quiet hquiet hload
    exact .unlisted (Or.inl rfl) (List.forall_mem_nil _) fruitless_cut fun items hlists =>
      absurd rfl hlists.ne_nil

end Courses

end PromptGraph
