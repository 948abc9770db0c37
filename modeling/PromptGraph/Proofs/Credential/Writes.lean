import PromptGraph.Credential.Propagation
import PromptGraph.Proofs.Effect.Asked
import PromptGraph.Proofs.Engine.Listing

/-!
# `Proofs.Credential.Writes` — which credentials are changed and deleted

An organization's credential is found by its name in a listing, and what is changed or deleted is what was found.

## Contents
- **Requests.** `Request.credentialWrite?`, `WritesFound`.
- **Attempts.** `along_afterListing`: what follows a listing; `along_storeOnce` and `along_deleteOnce`.
- **Propagation.** `along_delete` and `course_store`.
-/

namespace PromptGraph

open Act Engine Http

variable [Depth]

-- what a request asks for is known; to unfold its checks takes long
attribute [local irreducible] send

/-! ## Requests -/

/-- The id of the credential that a request changes or deletes. -/
def Http.Request.credentialWrite? (r : Request) : Option String :=
  match r.method, r.endpoint with
  | .patch, .credential id => some id
  | .delete, .credential id => some id
  | _, _ => none

/-- A complete listing of credentials, and what is read of it. -/
def ListsCredentials (pages : List Exchange) (listed : List Credential) : Prop :=
  ∃ items, Lists .credentials none pages items ∧ readEach Credential.read items = .ok listed

/-- Whatever credential is changed or deleted was found under the name in the listing just before. -/
def WritesFound (name : String) (xs : List Exchange) : Prop :=
  ∀ before x after id, xs = before ++ x :: after → x.request.credentialWrite? = some id →
    ∃ start pages listed, before = start ++ pages ∧ ListsCredentials pages listed
      ∧ Propagator.findId name listed = some id

section Writes

variable {α : Type} {name : String} {xs pages : List Exchange}

theorem additive_writesFound : Additive (WritesFound name) where
  nil := by
    intro before x after id heq
    cases before <;> cases heq
  append := by
    intro xs ys hxs hys before x after id heq hwrite
    rcases append_eq_cases heq with ⟨more, rfl, hmore⟩ | ⟨more, hmore⟩
    · obtain ⟨start, pages, listed, rfl, hlists, hfound⟩ := hys more x after id hmore hwrite
      exact ⟨xs ++ start, pages, listed, (List.append_assoc _ _ _).symm, hlists, hfound⟩
    · exact hxs before x more id hmore hwrite

theorem writesFound_of_apart (h : ∀ x ∈ xs, x.request.credentialWrite? = none) : WritesFound name xs := by
  rintro before x after id rfl hwrite
  cases (h x (by simp)).symm.trans hwrite

theorem writesFound_of_found {listed : List Credential} {id : String} {x : Exchange}
    (hpages : ∀ y ∈ pages, y.request.credentialWrite? = none) (hlists : ListsCredentials pages listed)
    (hfound : Propagator.findId name listed = some id) (hx : x.request.credentialWrite? = some id) :
    WritesFound name (pages ++ [x]) := by
  intro before y after id' heq hwrite
  rcases append_eq_cases heq with ⟨more, rfl, hmore⟩ | ⟨more, hmore⟩
  · cases more with
    | nil =>
        cases hmore
        cases hx.symm.trans hwrite
        exact ⟨[], pages, listed, List.append_nil pages, hlists, hfound⟩
    | cons z more => cases more <;> cases hmore -- nothing follows the one request
  · cases (hpages y (hmore ▸ by simp)).symm.trans hwrite

/-- **What follows a listing writes to what was found in it**: a piece of work that looks for a credential by its name,
    and sends one request at most after that. -/
theorem along_afterListing {p : Propagator} (work : Option String → Act Unit)
    (hwork : ∀ found xs o, Course (work found) xs o → xs = []
      ∨ ∃ x, xs = [x] ∧ (x.request.credentialWrite? = none ∨ x.request.credentialWrite? = found)) :
    (listCredentials p.pageBudget >>= fun listed => work (Propagator.findId name listed)).Along (WritesFound name) := by
  intro xs o hcourse
  have hpages : ∀ {pages} {o : End (List Credential)}, Course (listCredentials p.pageBudget) pages o →
      ∀ x ∈ pages, x.request.credentialWrite? = none := by
    intro pages o hlisting x hx
    obtain ⟨cursor, hrequest⟩ := (course_listing hlisting).1 x hx
    rw [hrequest]
    rfl
  rcases course_bind hcourse with ⟨listed, pages, ys, hlisting, hrest, rfl⟩ | ⟨e, hlisting, -⟩ | ⟨hlisting, -⟩
  · obtain ⟨items, hlists⟩ := (course_listing hlisting).2.2 listed rfl
    rcases hwork _ _ _ hrest with rfl | ⟨x, rfl, hnone | hfound⟩
    · rw [List.append_nil]
      exact writesFound_of_apart (hpages hlisting)
    · exact writesFound_of_apart
        (List.forall_mem_append.mpr ⟨hpages hlisting, List.forall_mem_singleton.mpr hnone⟩)
    · cases hid : Propagator.findId name listed with
      | none =>
          rw [hid] at hfound
          exact writesFound_of_apart
            (List.forall_mem_append.mpr ⟨hpages hlisting, List.forall_mem_singleton.mpr hfound⟩)
      | some id => exact writesFound_of_found (hpages hlisting) ⟨items, hlists⟩ hid (hfound.trans hid)
  -- a listing that fails or is cut short leaves its pages, and a page writes nothing
  · exact writesFound_of_apart (hpages hlisting)
  · exact writesFound_of_apart (hpages hlisting)

/-- A request after which nothing is sent is the only one. -/
theorem course_single {r : Request} {f : Json → Act α} (hf : ∀ v, (f v).Asks (fun q => q.isExchange = false) True)
    {o : End α} (h : Course (send r >>= f) xs o) : xs = [] ∨ ∃ reply, xs = [⟨r, reply⟩] := by
  rcases course_send_bind h with ⟨rfl, -⟩ | ⟨reply, e, -, rfl, -⟩ | ⟨reply, v, ys, -, rfl, hrest⟩
  · exact Or.inl rfl
  · exact Or.inr ⟨reply, rfl⟩
  · rw [course_quiet (hf v) hrest]
    exact Or.inr ⟨reply, rfl⟩

/-- Changes the credential that was found, or makes one. -/
def storeFound (c : Credential) : Option String → Act Unit
  | some id => updateCredential id c >>= fun _ => pure ()
  | none => createCredential c >>= fun _ => pure ()

/-- Deletes the credential that was found. -/
def deleteFound : Option String → Act Unit
  | some id => deleteCredential id
  | none => pure ()

theorem storeOnce_eq (p : Propagator) (c : Credential) : p.storeOnce c = listCredentials p.pageBudget >>= fun listed =>
    storeFound c (Propagator.findId c.name listed) := by
  refine congrArg (Act.bind (listCredentials p.pageBudget)) (funext fun listed => ?_)
  cases Propagator.findId c.name listed <;> rfl

theorem deleteOnce_eq (p : Propagator) (name : String) : p.deleteOnce name =
    listCredentials p.pageBudget >>= fun listed => deleteFound (Propagator.findId name listed) := by
  refine congrArg (Act.bind (listCredentials p.pageBudget)) (funext fun listed => ?_)
  cases Propagator.findId name listed <;> rfl

theorem updateCredential_bind (id : String) (c : Credential) (f : Credential → Act α) : updateCredential id c >>= f =
    send ⟨.patch, .credential id, none, some c.payload⟩ >>= fun v => answeredCredential c v >>= f :=
  bind_bind _ _ f

theorem createCredential_bind (c : Credential) (f : Credential → Act α) : createCredential c >>= f =
    send ⟨.post, .credentials, none, some c.payload⟩ >>= fun v => answeredCredential c v >>= f :=
  bind_bind _ _ f

theorem along_storeOnce (p : Propagator) (c : Credential) : (p.storeOnce c).Along (WritesFound c.name) := by
  have hquiet : ∀ v, (answeredCredential c v >>= fun _ => pure ()).Asks (fun q => q.isExchange = false) True :=
    fun v => asks_bind (asks_ofExcept _) fun _ => trivial
  rw [storeOnce_eq]
  refine along_afterListing (storeFound c) fun found xs o hcourse => ?_
  cases found with
  | some id =>
      rw [storeFound, updateCredential_bind] at hcourse
      rcases course_single hquiet hcourse with rfl | ⟨reply, rfl⟩
      · exact Or.inl rfl
      · exact Or.inr ⟨_, rfl, Or.inr rfl⟩
  | none =>
      rw [storeFound, createCredential_bind] at hcourse
      rcases course_single hquiet hcourse with rfl | ⟨reply, rfl⟩
      · exact Or.inl rfl
      · exact Or.inr ⟨_, rfl, Or.inl rfl⟩

theorem along_deleteOnce (p : Propagator) (name : String) : (p.deleteOnce name).Along (WritesFound name) := by
  rw [deleteOnce_eq]
  refine along_afterListing deleteFound fun found xs o hcourse => ?_
  cases found with
  | some id =>
      have hdelete : deleteFound (some id) = send ⟨.delete, .credential id, none, none⟩ >>= fun _ => pure () := rfl
      rw [hdelete] at hcourse
      have hquiet : ∀ v : Json, (pure () : Act Unit).Asks (fun q => q.isExchange = false) True := fun _ => trivial
      rcases course_single hquiet hcourse with rfl | ⟨reply, rfl⟩
      · exact Or.inl rfl
      · exact Or.inr ⟨_, rfl, Or.inr rfl⟩
  | none =>
      cases hcourse
      exact Or.inl rfl

omit [Depth] in
/-- What holds along one attempt holds along a guarded piece of work. -/
theorem along_guarded {Q : List Exchange → Prop} (hQ : Additive Q) {work : Act Unit} (hwork : work.Along Q)
    (p : Propagator) (org service operation : String) : (p.guarded org service operation work).Along Q := by
  refine along_bind hQ (along_attempt (along_retry hQ hwork _ _ _ _)) fun outcome => ?_
  cases outcome with
  | ok _ => exact along_of_quiet hQ (C := True) trivial
  | error e =>
      cases e with
      | remote x =>
          exact along_of_quiet hQ (C := True)
            (asks_bind (asks_perform rfl) fun _ => asks_bind (asks_perform rfl) fun _ => trivial)
      | _ => exact along_of_quiet hQ (C := True) trivial

/-- **A deletion deletes what it finds under its own name.** -/
theorem along_delete (p : Propagator) (org service : String) :
    (p.delete org service).Along (WritesFound (credentialName service (some org))) :=
  along_guarded additive_writesFound (along_deleteOnce p _) p org service "delete"

omit [Depth] in
theorem name_of_ofName? {word : String} {t : Service} (h : Service.ofName? word = some t) : t.name = word := by
  have hfound := List.find?_some h
  exact beq_iff_eq.mp hfound

omit [Depth] in
theorem ofName?_name (t : Service) : Service.ofName? t.name = some t := by
  cases t <;> rfl

/-- **A store changes what it finds under its own name**, and sends nothing for a word that is no service. -/
theorem course_store {p : Propagator} {org service secret : String} {o : End Bool}
    (h : Course (p.store org service secret) xs o) :
    WritesFound (credentialName service (some org)) xs ∧ (xs = [] ∨ ∃ t : Service, t.name = service) := by
  unfold Propagator.store at h
  split at h
  · have hquiet : (report (.credentialService service) >>= fun _ => pure false : Act Bool).Asks
        (fun q => q.isExchange = false) True := asks_bind (asks_perform rfl) fun _ => trivial
    rw [course_quiet hquiet h]
    exact ⟨additive_writesFound.nil, Or.inl rfl⟩
  · rename_i t ht
    have hfound := along_guarded additive_writesFound (along_storeOnce p _) p org service "store" xs o h
    exact ⟨hfound, Or.inr ⟨t, name_of_ofName? (Option.filter_eq_some_iff.mp ht).1⟩⟩

end Writes

end PromptGraph
