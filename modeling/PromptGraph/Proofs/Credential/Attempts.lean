import PromptGraph.Proofs.Credential.Writes

/-!
# `Proofs.Credential.Attempts` — what one attempt at a credential comes to

An attempt lists the credentials, looks for one by its name, and then sends one request at most. What its replies come
to is said apart from the program: `Reads` relates the exchanges of an attempt to one result, and an attempt that is not
cut ends with it. An error of the remote is always the last reply; whatever else an attempt fails with was found in a
reply, or before a request was sent.

## Contents
- **Work.** `CredentialWork`: what is sent for a credential that was looked for; `storing`, `deleting`, `once`.
- **Looking.** `Looked`: what a listing of credentials comes to.
- **Attempts.** `Reads`, `Reads.unique`, `FailsRemotely`, `Reads.remote_iff`, and `reads_of_course`.
-/

namespace PromptGraph

open Act Engine Http

variable [Depth]

-- what a request asks for is known; to unfold its checks takes long
attribute [local irreducible] send

/-! ## Work -/

omit [Depth] in
/-- What is no credential is refused for its shape. -/
theorem Credential.read_error {v : Json} {f : Failure} (h : Credential.read v = .error f) :
    ∃ fault, f = .schema fault := by
  refine Checked.toExcept_error_of_ne ?_ h
  simp [Schema.optional_ne_broken]

/-- What is done with a credential that is looked for by its name: the request for what was found, if there is one, and
    which of its answers is taken. An answer that is not taken is no record of the right shape. -/
structure CredentialWork where
  name : String
  request? : Option String → Option Request
  accept : Json → Except Failure Unit
  writes : ∀ found r, request? found = some r → r.method ≠ .get
  accept_error : ∀ v f, accept v = .error f → ∃ fault, f = .schema fault

namespace CredentialWork

/-- Sends the request for what was found, and takes its answer. -/
def apply (k : CredentialWork) (found : Option String) : Act Unit :=
  match k.request? found with
  | none => pure ()
  | some r => send r >>= fun v => ofExcept (k.accept v)

/-- One attempt: credentials are listed, and the request for what was found is sent. -/
def once (k : CredentialWork) (budget : Nat) : Act Unit :=
  listCredentials budget >>= fun listed => k.apply (Propagator.findId k.name listed)

/-- An answer to a credential that was sent is a credential; one without a value stands for what was sent. -/
def takeAnswer (c : Credential) (v : Json) : Except Failure Unit :=
  Credential.read (if v.isTruthy then v else c.toJson) >>= fun _ => .ok ()

/-- The request that changes the credential that was found, or makes one. -/
def storeRequest (c : Credential) : Option String → Request
  | some id => ⟨.patch, .credential id, none, some c.payload⟩
  | none => ⟨.post, .credentials, none, some c.payload⟩

/-- A credential is put into the engine. -/
def storing (c : Credential) : CredentialWork where
  name := c.name
  request? := fun found => some (storeRequest c found)
  accept := takeAnswer c
  writes := by
    intro found r hr
    cases hr
    cases found <;> nofun
  accept_error := by
    intro v f hf
    rcases bind_eq_error.mp hf with hread | ⟨a, -, hdone⟩
    · exact Credential.read_error hread
    · cases hdone

/-- The credential of a name is deleted where it is found. -/
def deleting (name : String) : CredentialWork where
  name := name
  request? := fun found => found.map fun id => ⟨.delete, .credential id, none, none⟩
  accept := fun _ => .ok ()
  writes := by
    intro found r hr
    obtain ⟨id, -, rfl⟩ := Option.map_eq_some_iff.mp hr
    nofun
  accept_error := by
    intro v f hf
    cases hf

omit [Depth] in
theorem answeredCredential_bind (c : Credential) (v : Json) :
    (answeredCredential c v >>= fun _ => pure ()) = ofExcept (takeAnswer c v) := by
  unfold answeredCredential takeAnswer
  cases Credential.read (if v.isTruthy then v else c.toJson) <;> rfl

theorem storing_once (p : Propagator) (c : Credential) : p.storeOnce c = (storing c).once p.pageBudget := by
  rw [storeOnce_eq]
  refine congrArg (Act.bind (listCredentials p.pageBudget)) (funext fun listed => ?_)
  show storeFound c (Propagator.findId c.name listed) = (storing c).apply (Propagator.findId c.name listed)
  cases Propagator.findId c.name listed with
  | some id =>
      rw [storeFound, updateCredential_bind]
      exact congrArg (Act.bind (send _)) (funext fun v => answeredCredential_bind c v)
  | none =>
      rw [storeFound, createCredential_bind]
      exact congrArg (Act.bind (send _)) (funext fun v => answeredCredential_bind c v)

theorem deleting_once (p : Propagator) (name : String) : p.deleteOnce name = (deleting name).once p.pageBudget := by
  rw [deleteOnce_eq]
  refine congrArg (Act.bind (listCredentials p.pageBudget)) (funext fun listed => ?_)
  show deleteFound (Propagator.findId name listed) = (deleting name).apply (Propagator.findId name listed)
  cases Propagator.findId name listed <;> rfl

end CredentialWork

/-! ## Looking -/

/-- What a listing of credentials comes to: it fails with a page, or its items are read. -/
inductive Looked : List Exchange → Except Failure (List Credential) → Prop where
  | unlisted {xs : List Exchange} {f : Failure} (h : Unlisted .credentials none xs f) : Looked xs (.error f)
  | listed {xs : List Exchange} {items : List Json} (h : Lists .credentials none xs items) :
      Looked xs (readEach Credential.read items)

section Looking

variable {xs : List Exchange}

theorem Looked.unique {x y : Except Failure (List Credential)} (h : Looked xs x) (h' : Looked xs y) : x = y := by
  cases h with
  | unlisted h =>
      cases h' with
      | unlisted h' => rw [h.unique h']
      | listed h' => exact absurd h (h'.not_unlisted _)
  | listed h =>
      cases h' with
      | unlisted h' => exact absurd h' (h.not_unlisted _)
      | listed h' => rw [h.unique h']

/-- Looking sends nothing but requests for pages. -/
theorem Looked.gets {x : Except Failure (List Credential)} (h : Looked xs x) : ∀ y ∈ xs, y.request.method = .get := by
  have hpages : ∀ y ∈ xs, ∃ cursor, y.request = pageRequest .credentials cursor := by
    cases h with
    | unlisted h => exact h.pages
    | listed h => exact h.pages
  intro y hy
  obtain ⟨cursor, hrequest⟩ := hpages y hy
  rw [hrequest]
  rfl

theorem send_page (cursor : Option Json) (f : Failure) : send (pageRequest .credentials cursor) ≠ .failed f := by
  have haddress : isAddressText Endpoint.credentials.fullPath.toList = true := by decide
  have hpage : (pageRequest .credentials cursor).isAddressable = true := haddress
  rw [send_eq_ask hpage rfl]
  nofun

theorem looked_of_course {budget : Nat} {o : End (List Credential)} (h : Course (listCredentials budget) xs o) :
    o = .cut ∨ ∃ x, o = endOf x ∧ Looked xs x := by
  rcases course_bind h with ⟨items, ys, zs, hpages, hread, rfl⟩ | ⟨f, hfailed, rfl⟩ | ⟨-, rfl⟩
  · obtain ⟨rfl, rfl⟩ := course_ofExcept hread
    rw [List.append_nil]
    exact Or.inr ⟨_, rfl, .listed (((course_listFrom hpages).2 items).mp rfl)⟩
  · exact Or.inr ⟨.error f, rfl, .unlisted (unlisted_of_course send_page hfailed)⟩
  · exact Or.inl rfl

end Looking

/-! ## Attempts -/

/-- What the exchanges of an attempt come to. -/
inductive Reads (k : CredentialWork) : List Exchange → Except Failure Unit → Prop where
  /-- No credentials are listed, or something that is listed is no credential. -/
  | unread {xs : List Exchange} {f : Failure} (hlooked : Looked xs (.error f)) : Reads k xs (.error f)
  /-- There is nothing to be done. -/
  | idle {xs : List Exchange} {listed : List Credential} (hlooked : Looked xs (.ok listed))
      (hidle : k.request? (Propagator.findId k.name listed) = none) : Reads k xs (.ok ())
  /-- The request is not sent. -/
  | refused {xs : List Exchange} {listed : List Credential} {r : Request} {f : Failure}
      (hlooked : Looked xs (.ok listed)) (hrequest : k.request? (Propagator.findId k.name listed) = some r)
      (hrefused : send r = .failed f) : Reads k xs (.error f)
  | answered {xs : List Exchange} {listed : List Credential} {r : Request} (reply : Reply)
      (hlooked : Looked xs (.ok listed)) (hrequest : k.request? (Propagator.findId k.name listed) = some r) :
      Reads k (xs ++ [⟨r, reply⟩]) (replyValue r reply >>= k.accept)

/-- The last reply is an error of the remote. -/
def FailsRemotely (xs : List Exchange) (e : RemoteError) : Prop :=
  ∃ x, xs.getLast? = some x ∧ replyValue x.request x.reply = .error (.remote e)

section Attempts

variable {k : CredentialWork} {xs : List Exchange} {x y : Except Failure Unit}

/-- An attempt that ends with its listing is told apart from one that sends a request by the last request. -/
theorem Looked.ne_answered {ys : List Exchange} {r : Request} {reply : Reply} {found : Option String}
    {z : Except Failure (List Credential)} (h : Looked xs z) (hrequest : k.request? found = some r) :
    xs ≠ ys ++ [⟨r, reply⟩] := by
  rintro rfl
  exact k.writes found r hrequest (h.gets ⟨r, reply⟩ (by simp))

/-- **The exchanges of an attempt come to one result.** -/
theorem Reads.unique (h : Reads k xs x) (h' : Reads k xs y) : x = y := by
  cases h with
  | unread hlooked =>
      cases h' with
      | unread hlooked' => cases hlooked.unique hlooked'; rfl
      | idle hlooked' _ => cases hlooked.unique hlooked'
      | refused hlooked' _ _ => cases hlooked.unique hlooked'
      | answered _ _ hrequest' => exact absurd rfl (hlooked.ne_answered hrequest')
  | idle hlooked hidle =>
      cases h' with
      | unread hlooked' => cases hlooked.unique hlooked'
      | idle => rfl
      | refused hlooked' hrequest' _ =>
          cases hlooked.unique hlooked'
          cases hidle.symm.trans hrequest'
      | answered _ _ hrequest' => exact absurd rfl (hlooked.ne_answered hrequest')
  | refused hlooked hrequest hrefused =>
      cases h' with
      | unread hlooked' => cases hlooked.unique hlooked'
      | idle hlooked' hidle' =>
          cases hlooked.unique hlooked'
          cases hrequest.symm.trans hidle'
      | refused hlooked' hrequest' hrefused' =>
          cases hlooked.unique hlooked'
          cases hrequest.symm.trans hrequest'
          cases hrefused.symm.trans hrefused'
          rfl
      | answered _ _ hrequest' => exact absurd rfl (hlooked.ne_answered hrequest')
  | answered reply hlooked hrequest =>
      -- only an attempt that sends this request ends with it, and then the reply is the same
      generalize hall : _ ++ [_] = all at h'
      cases h' with
      | unread hlooked' => exact absurd hall.symm (hlooked'.ne_answered hrequest)
      | idle hlooked' _ => exact absurd hall.symm (hlooked'.ne_answered hrequest)
      | refused hlooked' _ _ => exact absurd hall.symm (hlooked'.ne_answered hrequest)
      | answered reply' _ _ =>
          obtain ⟨-, hlast⟩ := List.append_inj' hall rfl
          cases hlast
          rfl

/-- An attempt whose last reply is read does not fail remotely. -/
theorem Engine.Lists.not_failsRemotely {items : List Json} (h : Lists .credentials none xs items) (e : RemoteError) :
    ¬ FailsRemotely xs e := by
  obtain ⟨y, v, hlast, hvalue⟩ := h.last_value
  rintro ⟨z, hlast', herror⟩
  cases hlast.symm.trans hlast'
  cases hvalue.symm.trans herror

theorem Looked.not_failsRemotely {listed : List Credential} (h : Looked xs (.ok listed)) (e : RemoteError) :
    ¬ FailsRemotely xs e := by
  generalize hread : Except.ok listed = z at h
  cases h with
  | unlisted => cases hread
  | listed h => exact h.not_failsRemotely e

/-- A listing fails remotely exactly with its last reply. -/
theorem Engine.Unlisted.remote_iff {cursor : Option Json} {f : Failure} (h : Unlisted .credentials cursor xs f)
    (e : RemoteError) : f = .remote e ↔ FailsRemotely xs e := by
  induction h with
  | @failed cursor reply f hpage =>
      rcases bind_eq_error.mp hpage with hvalue | ⟨page, hvalue, hread⟩
      · constructor
        · rintro rfl
          exact ⟨_, rfl, hvalue⟩
        · rintro ⟨z, hlast, herror⟩
          cases hlast
          exact Except.error.inj (hvalue.symm.trans herror)
      · obtain ⟨fault, rfl⟩ := readPage_error hread
        constructor
        · nofun
        · rintro ⟨z, hlast, herror⟩
          cases hlast
          cases hvalue.symm.trans herror
  | @more cursor reply next items xs f _ hrest ih =>
      rw [ih]
      have hlast : (⟨pageRequest .credentials cursor, reply⟩ :: xs : List Exchange).getLast? = xs.getLast? := by
        rw [List.getLast?_cons, List.getLast?_eq_some_getLast hrest.ne_nil]
        rfl
      unfold FailsRemotely
      rw [hlast]

omit [Depth] in
theorem readEach_credential_error {items : List Json} {f : Failure}
    (h : readEach Credential.read items = .error f) : ∃ fault, f = .schema fault := by
  obtain ⟨v, -, hread⟩ := readEach_error h
  exact Credential.read_error hread

/-- **An attempt fails remotely exactly with its last reply**: nothing that is read of an answer, and nothing that keeps
    a request from being sent, is an error of the remote. -/
theorem Reads.remote_iff (h : Reads k xs x) (e : RemoteError) : x = .error (.remote e) ↔ FailsRemotely xs e := by
  cases h with
  | @unread xs f hlooked =>
      generalize hread : (Except.error f : Except Failure (List Credential)) = z at hlooked
      cases hlooked with
      | unlisted h =>
          cases hread
          rw [← h.remote_iff e]
          constructor
          · exact fun heq => Except.error.inj heq
          · exact fun heq => congrArg Except.error heq
      | listed h =>
          obtain ⟨fault, rfl⟩ := readEach_credential_error hread.symm
          exact ⟨nofun, fun hremote => absurd hremote (h.not_failsRemotely e)⟩
  | idle hlooked _ => exact ⟨nofun, fun hremote => absurd hremote (hlooked.not_failsRemotely e)⟩
  | @refused xs listed r f hlooked _ hrefused =>
      refine ⟨fun heq => ?_, fun hremote => absurd hremote (hlooked.not_failsRemotely e)⟩
      -- what keeps a request from being sent is no error of the remote
      cases heq
      rcases send_cases r with hsent | ⟨f', hfailed, hremote⟩
      · cases hsent.symm.trans hrefused
      · cases hfailed.symm.trans hrefused
        exact absurd rfl (hremote e)
  | @answered xs listed r reply hlooked _ =>
      have hlast : (xs ++ [⟨r, reply⟩] : List Exchange).getLast? = some ⟨r, reply⟩ := by simp
      constructor
      · intro heq
        rcases bind_eq_error.mp heq with hvalue | ⟨v, -, haccept⟩
        · exact ⟨_, hlast, hvalue⟩
        · obtain ⟨fault, hfault⟩ := k.accept_error v _ haccept
          cases hfault
      · rintro ⟨z, hlast', herror⟩
        cases hlast.symm.trans hlast'
        exact bind_eq_error.mpr (Or.inl herror)

/-- **An attempt that is not cut ends as its exchanges are read.** -/
theorem reads_of_course {budget : Nat} {o : End Unit} (h : Course (k.once budget) xs o) :
    o = .cut ∨ ∃ x, o = endOf x ∧ Reads k xs x := by
  rcases course_bind h with ⟨listed, ys, zs, hlisting, hrest, rfl⟩ | ⟨f, hfailed, rfl⟩ | ⟨-, rfl⟩
  · have hlooked : Looked ys (.ok listed) := by
      rcases looked_of_course hlisting with hcut | ⟨x, hend, hlooked⟩
      · cases hcut
      · rw [endOf_eq_value.mp hend.symm] at hlooked
        exact hlooked
    right
    unfold CredentialWork.apply at hrest
    cases hrequest : k.request? (Propagator.findId k.name listed) with
    | none =>
        rw [hrequest] at hrest
        cases hrest
        rw [List.append_nil]
        exact ⟨.ok (), rfl, .idle hlooked hrequest⟩
    | some r =>
        rw [hrequest] at hrest
        rcases course_operation hrest with ⟨rfl, f, hrefused, rfl, -⟩ | ⟨reply, rfl, rfl⟩
        · rw [List.append_nil]
          exact ⟨.error f, rfl, .refused hlooked hrequest hrefused⟩
        · exact ⟨_, rfl, .answered reply hlooked hrequest⟩
  · rcases looked_of_course hfailed with hcut | ⟨x, hend, hlooked⟩
    · cases hcut
    · rw [endOf_eq_failure.mp hend.symm] at hlooked
      exact Or.inr ⟨.error f, rfl, .unread hlooked⟩
  · exact Or.inl rfl

end Attempts

end PromptGraph
