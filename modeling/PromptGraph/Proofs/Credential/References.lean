import PromptGraph.Proofs.Compile.Credentials
import PromptGraph.Proofs.Credential.Names
import PromptGraph.Proofs.Credential.Upsert

/-!
# `Proofs.Credential.References` — references of compiled nodes and the credentials behind them

A compiled node refers to a credential by its type and its name, and the engine is given the secret of an organization
under a type and a name. Both are made of the service and the organization, in two places: the node finds the credential
that was put there for it, and no other organization's and no shared one.

## Contents
- **Names.** `name_injective`, `credentialName_ne_shared`.
- **Stored credentials.** `Http.Request.storedReference?`; `sends_store`, `course_store_true`.
- **References.** `StoredUnder` with `storedUnder_of_course`, `KeptUnder` with `keptUnder_of_delivered`, and
  `compiled_references_resolve`.
-/

namespace PromptGraph

open Act Engine Http

-- what a request asks for is known; to unfold its checks takes long
attribute [local irreducible] send

/-! ## Names -/

theorem Service.name_injective {t u : Service} (h : t.name = u.name) : t = u := by
  cases t <;> cases u <;> first | rfl | exact absurd h (by decide)

/-- No credential of an organization is named like one that is set up by hand for all of them. -/
theorem credentialName_ne_shared {org : String} (horg : org ≠ "") (t : Service) (service : String) :
    credentialName t.name (some org) ≠ service ++ "_account" := by
  intro heq
  have hlists : ("org_" ++ org).toList ++ '_' :: t.name.toList = service.toList ++ '_' :: "account".toList := by
    rw [credentialName_of_ne t.name horg, ← String.toList_inj] at heq
    simpa using heq
  rcases (append_cons_eq_iff (by decide)).mp hlists with ⟨-, hname⟩ | ⟨us, hname, -⟩
  · cases t <;> exact absurd hname (by decide)
  · refine name_without_underscore t ?_
    rw [hname]
    simp

/-! ## Stored credentials -/

/-- The reference by which a node finds the credential that a request makes or changes: its type with its name. -/
def Http.Request.storedReference? (r : Request) : Option Members :=
  match r.method, r.endpoint with
  | .post, .credentials => r.body.bind reference?
  | .patch, .credential _ => r.body.bind reference?
  | _, _ => none
where
  reference? (v : Json) : Option Members :=
    match v.get? "type", v.get? "name" with
    | some (.str type), some name => some [(type, .obj [("name", name)])]
    | _, _ => none

theorem storedReference_storeRequest (t : Service) (org service secret : String) (found : Option String) :
    (CredentialWork.storeRequest (Propagator.credentialOf t org service secret) found).storedReference?
      = some [(t.credentialType, .obj [("name", .str (credentialName service (some org)))])] := by
  cases found <;> rfl

section Stored

variable [Depth] {p : Propagator} {org secret : String} {t : Service} {xs : List Exchange} {o : End Bool}

/-- A request lists, or makes or changes the credential that a reference finds. -/
def Http.Request.WritesOnly (block : Members) (r : Request) : Prop := r.method = .get ∨ r.storedReference? = some block

/-- The credential that a store for a service writes. -/
def storedCredential (t : Service) (org secret : String) : CredentialWork :=
  .storing (Propagator.credentialOf t org t.name secret)

/-- An attempt lists, and writes under the type and the name of the service. -/
theorem sends_storing (budget : Nat) (t : Service) (org secret : String) :
    ((storedCredential t org secret).once budget).Sends (Request.WritesOnly (credentialRef t (some org))) := by
  refine sends_bind ?_ fun listed => sends_bind (sends_of_asks (C := True) (asks_send ?_)) fun v =>
    sends_of_quiet (C := True) (asks_ofExcept _)
  · intro ys ended hlisting x hx
    obtain ⟨cursor, hrequest⟩ := (course_listing hlisting).1 x hx
    rw [hrequest]
    exact Or.inl rfl
  · rintro r ⟨rfl⟩
    exact Or.inr (storedReference_storeRequest t org t.name secret _)

/-- **A store writes nothing but credentials of the service and the organization.** -/
theorem sends_store (p : Propagator) (org secret : String) (t : Service) :
    (p.store org t.name secret).Sends (Request.WritesOnly (credentialRef t (some org))) := by
  by_cases hmember : t.name ∈ p.services
  · rw [store_eq_guarded (ofName?_name t) hmember]
    exact along_guarded (additive_sent (P := Request.WritesOnly (credentialRef t (some org))))
      (sends_storing p.pageBudget t org secret) p org t.name "store"
  · rw [store_unsupported (Or.inr hmember)]
    exact sends_of_quiet (C := True) (asks_bind (asks_perform rfl) fun _ => trivial)

/-- An attempt that succeeds ends with a write that was answered with success. -/
theorem course_storing_value {budget : Nat} (h : Course ((storedCredential t org secret).once budget) xs (.value ())) :
    ∃ x ∈ xs, x.request.storedReference? = some (credentialRef t (some org)) ∧ x.succeeded = true := by
  obtain ⟨listed, ys, zs, -, hwrite, rfl⟩ := course_bind_value h
  rcases course_send_bind hwrite with ⟨-, e, -, hend, -⟩ | ⟨reply, e, -, -, hend⟩ | ⟨reply, v, us, hvalue, rfl, -⟩
  · cases hend
  · cases hend
  · exact ⟨_, List.mem_append_right ys List.mem_cons_self, storedReference_storeRequest t org t.name secret _,
      succeeded_of_value hvalue⟩

/-- **A store that is true has written the credential.** -/
theorem course_store_true (h : Course (p.store org t.name secret) xs (.value true)) :
    ∃ x ∈ xs, x.request.storedReference? = some (credentialRef t (some org)) ∧ x.succeeded = true := by
  by_cases hmember : t.name ∈ p.services
  · rw [store_eq_guarded (ofName?_name t) hmember] at h
    obtain ⟨ended, ⟨rounds, -, rfl, -, hvalue⟩, htrue⟩ := course_guarded h
    obtain ⟨last, hlast, hcourse⟩ := hvalue () (htrue rfl)
    obtain ⟨x, hx, hstored⟩ := course_storing_value hcourse
    exact ⟨x, List.mem_flatten.mpr ⟨last, hlast, hx⟩, hstored⟩
  · rw [store_unsupported (Or.inr hmember)] at h
    cases h with
    | ask _ h => cases h

end Stored

/-! ## References -/

section References

variable [Depth]

/-- What a store sends and comes to, beside a reference: it writes nothing but the credential that the reference finds,
    and has written it where it is true. -/
structure StoredUnder (block : Members) (xs : List Exchange) (o : End Bool) : Prop where
  only : ∀ x ∈ xs, x.request.method ≠ .get → x.request.storedReference? = some block
  written : o = .value true → ∃ x ∈ xs, x.request.storedReference? = some block ∧ x.succeeded = true

theorem storedUnder_of_course {p : Propagator} {org secret : String} {t : Service} {xs : List Exchange} {o : End Bool}
    (h : Course (p.store org t.name secret) xs o) : StoredUnder (credentialRef t (some org)) xs o where
  only x hx hmethod := (sends_store p org secret t xs o h x hx).resolve_left hmethod
  written htrue := by
    rw [htrue] at h
    exact course_store_true h

/-- What a store leaves at an engine that answers it, beside a reference: it is true, it has written the credential that
    the reference finds, and that is the only one of its name which the engine holds then. -/
structure KeptUnder (block : Members) (name : String) (result : End Bool × VaultSite) (xs : List Exchange) : Prop where
  made : result.1 = .value true
  written : ∃ x ∈ xs, x.request.storedReference? = some block ∧ x.succeeded = true
  held : ∃ k, result.2.vault.named name = [k] ∧ block = [(k.type, .obj [("name", .str k.name)])]

/-- **An engine that answers a store holds what a reference finds.** -/
theorem keptUnder_of_delivered (z : Custodian) {p : Propagator} {org : String} {t : Service} (secret : String)
    {s : VaultSite} (henabled : t.name ∈ p.services)
    (hsingle : (s.vault.named (credentialName t.name (some org))).length ≤ 1)
    (hroom : s.vault.held.length + 1 < p.pageBudget)
    (haddress : ∀ id, id ∈ s.vault.ids ∨ id = z.source.next s.vault.ids → IsAddressable s.near.base id) :
    KeptUnder (credentialRef t (some org)) (credentialName t.name (some org))
      ((p.store org t.name secret).run (VaultSite.answer z fun _ => .delivered) s)
      (exchanges (VaultSite.answer z fun _ => .delivered) (p.store org t.name secret) s) := by
  have hcourse := course_run (VaultSite.answer z fun _ => .delivered) (p.store org t.name secret) s
  have hconcludes := concludes_guarded (fun _ => .delivered) org t.name "store"
    (settles_storing (c := Propagator.credentialOf t org t.name secret) s.near.base rfl hsingle hroom haddress)
  rw [← store_eq_guarded (ofName?_name t) henabled] at hconcludes
  generalize (p.store org t.name secret).run (VaultSite.answer z fun _ => .delivered) s = x at hcourse hconcludes
  cases hconcludes with
  | made vault =>
      obtain ⟨k, hk, htype, -⟩ :=
        (holds_after_storing (z := z) (c := Propagator.credentialOf t org t.name secret) hsingle).one
      refine ⟨rfl, course_store_true hcourse, k, vault ▸ hk, ?_⟩
      rw [htype, (mem_of_named hk).2]
      rfl
  | refused vault message failures undelivered =>
      obtain ⟨n, hn⟩ := undelivered
      exact absurd rfl hn

/-- **A compiled reference is to the organization's own credential for the service of its node**, the one that a store
    for the two writes, whatever the engine answers, and that an engine holds which answers it; and no two organizations
    or services have one name for theirs, nor is it the name of a shared one. -/
theorem compiled_references_resolve {org : String} (horg : org ≠ "") :
    (∀ rewrites c d, compileChain ⟨rewrites, some org⟩ c = .ok d → ∀ e ∈ d.nodes, ∀ block, e.credentials = some block →
      ∃ n ∈ c.graph.nodes, n.id = e.id ∧ ∃ t, n.body.service? = some t
        ∧ block = [(t.credentialType, .obj [("name", .str (credentialName t.name (some org)))])]
        ∧ (∀ p secret xs o, Course (Propagator.store p org t.name secret) xs o → StoredUnder block xs o)
        ∧ ∀ (z : Custodian) (p : Propagator) (secret : String) (s : VaultSite), t.name ∈ p.services →
          (s.vault.named (credentialName t.name (some org))).length ≤ 1 → s.vault.held.length + 1 < p.pageBudget →
          (∀ id, id ∈ s.vault.ids ∨ id = z.source.next s.vault.ids → IsAddressable s.near.base id) →
          KeptUnder block (credentialName t.name (some org))
            ((p.store org t.name secret).run (VaultSite.answer z fun _ => .delivered) s)
            (exchanges (VaultSite.answer z fun _ => .delivered) (p.store org t.name secret) s))
      ∧ (∀ other, other ≠ "" → ∀ t u : Service,
        credentialName t.name (some org) = credentialName u.name (some other) ↔ org = other ∧ t = u)
      ∧ ∀ (t : Service) (service : String), credentialName t.name (some org) ≠ service ++ "_account" := by
  refine ⟨?_, ?_, credentialName_ne_shared horg⟩
  · intro rewrites c d hcompiled e he block hblock
    obtain ⟨n, hn, hid, t, hservice, rfl⟩ := service_of_compileChain hcompiled he hblock
    exact ⟨n, hn, hid, t, hservice, rfl, fun p secret xs o hcourse => storedUnder_of_course hcourse,
      fun z p secret s henabled hsingle hroom haddress =>
        keptUnder_of_delivered z secret henabled hsingle hroom haddress⟩
  · intro other hother t u
    rw [credentialName_service_iff horg hother]
    exact and_congr_right fun _ => ⟨Service.name_injective, congrArg Service.name⟩

end References

/-- A chat finds the chat credential of its organization, which a store puts into an empty vault. -/
theorem compiled_references_resolve_chat : "acme" ≠ "" ∧ ∃ d, compileChain ⟨Rewrites.default, some "acme"⟩
    (chatChain none) = .ok d ∧ ∃ e ∈ d.nodes, ∃ block, e.credentials = some block ∧ ∃ n ∈ (chatChain none).graph.nodes,
      n.id = e.id ∧ ∃ t, n.body.service? = some t
        ∧ block = [(t.credentialType, .obj [("name", .str (credentialName t.name (some "acme")))])]
        ∧ (∀ p secret xs o, Course (Propagator.store p "acme" t.name secret) xs o → StoredUnder block xs o)
        ∧ KeptUnder block (credentialName t.name (some "acme"))
          ((twoAttempts.store "acme" t.name "secret").run (VaultSite.answer .plain fun _ => .delivered) emptyVault)
          (exchanges (VaultSite.answer .plain fun _ => .delivered) (twoAttempts.store "acme" t.name "secret")
            emptyVault) := by
  have hnonempty : "acme" ≠ "" := by decide
  obtain ⟨d, hcompiled, e, he, block, hblock⟩ : ∃ d, compileChain ⟨Rewrites.default, some "acme"⟩ (chatChain none)
      = .ok d ∧ ∃ e ∈ d.nodes, ∃ block, e.credentials = some block :=
    ⟨_, rfl, _, List.mem_cons_of_mem _ List.mem_cons_self, _, rfl⟩
  obtain ⟨n, hn, hid, t, hservice, hreference, hstored, hkept⟩ :=
    (compiled_references_resolve hnonempty).1 _ _ d hcompiled e he block hblock
  have henabled : t.name ∈ twoAttempts.services := by
    cases t <;> decide
  exact ⟨hnonempty, d, hcompiled, e, he, block, hblock, n, hn, hid, t, hservice, hreference, hstored,
    hkept .plain twoAttempts "secret" emptyVault henabled (Nat.zero_le 1) (by decide) isAddressable_emptyVault⟩

end PromptGraph
