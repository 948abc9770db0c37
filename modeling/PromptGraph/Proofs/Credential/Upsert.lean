import PromptGraph.Proofs.Credential.Tried
import PromptGraph.Proofs.Http.Arrival

/-!
# `Proofs.Credential.Upsert` — credentials are put into a vault once, whatever is lost

A store makes a credential or changes the one that is there, and a deletion takes it away. Both may be done again
without a further change, so a vault is as it was, or as one of them made it, after any number of attempts and whatever
becomes of their requests.

## Contents
- **Storing.** `answer_post`, `answer_patch`; `Vault.Holds`, `holds_after_storing`, and `settles_storing`.
- **Deleting.** `answer_delete`, `after_deleting`, and `settles_deleting`.
- **Rounds.** `Request.beginsListing`, `rounds`; `rounds_once`, `course_guarded`, and `rounds_guarded`.
- **Upserts.** `LeavesOnce`, `leavesOnce_guarded`, and `upsert_exactly_once`.
-/

namespace PromptGraph

open Act Engine Http

-- what a request asks for is known; to unfold its checks takes long
attribute [local irreducible] send

/-! ## Storing and deleting -/

section Work

variable {z : Custodian} {v : Vault} {k : KeptCredential} {c : Credential} {name : String} {budget : Nat}
  (base : Base)

theorem found_of_named (h : v.named name = [k]) : v.found name = some k.id := by
  rw [Vault.found, h]
  rfl

theorem found_of_nil (h : v.named name = []) : v.found name = none := by
  rw [Vault.found, h]
  rfl

theorem mem_of_named (h : v.named name = [k]) : k ∈ v.held ∧ k.name = name :=
  Vault.mem_named.mp (h ▸ List.mem_singleton_self k)

/-- The credentials of a name that is not that of two: none, or one. -/
theorem named_cases (hsingle : (v.named name).length ≤ 1) : v.named name = [] ∨ ∃ k, v.named name = [k] :=
  match v.named name, hsingle with
  | [], _ => Or.inl rfl
  | [k], _ => Or.inr ⟨k, rfl⟩

/-- A vault answers to a new credential by telling it. -/
theorem answer_post (z : Custodian) (v : Vault) (c : Credential) :
    z.answer v ⟨.post, .credentials, none, some c.payload⟩
      = (Custodian.ok (z.told (v.made z.source c.name c.type c.data)), v.add z.source c.name c.type c.data) := rfl

theorem answer_patch (hk : k ∈ v.held) (c : Credential) :
    z.answer v ⟨.patch, .credential k.id, none, some c.payload⟩
      = (Custodian.ok (z.told (Vault.changed k c.name c.type c.data)), v.change k.id c.name c.type c.data) := by
  unfold Custodian.answer Credential.payload
  dsimp only
  rw [Vault.find?_of_mem hk]
  rfl

theorem answer_delete (hk : k ∈ v.held) :
    z.answer v ⟨.delete, .credential k.id, none, none⟩ = (Custodian.ok (z.told k), v.remove k.id) := by
  unfold Custodian.answer
  dsimp only
  rw [Vault.find?_of_mem hk]

/-- What is told of a credential is taken for the answer to a write. -/
theorem takeAnswer_told (c : Credential) (k : KeptCredential) :
    CredentialWork.takeAnswer c (z.told k) = .ok () := by
  obtain ⟨data, hread⟩ := read_toldCredential z k
  have htruthy : (z.told k).isTruthy = true := rfl
  rw [CredentialWork.takeAnswer, if_pos htruthy, hread]
  rfl

theorem ready_storing [Depth] (hwritten : Json.writeFault? true c.payload = none)
    (hsingle : (v.named c.name).length ≤ 1) (hroom : v.held.length < budget)
    (haddress : ∀ k ∈ v.named c.name, IsAddressable base k.id) : v.Ready z (.storing c) budget := by
  rcases named_cases hsingle with hnone | ⟨k, hk⟩
  · have hrequest : ∀ r, (CredentialWork.storing c).request? (v.found c.name) = some r →
        r = ⟨.post, .credentials, none, some c.payload⟩ := by
      intro r hr
      rw [found_of_nil hnone] at hr
      exact (Option.some.inj hr).symm
    refine ⟨hsingle, hroom, fun r hr => ?_, fun r hr => ?_⟩
    · rw [hrequest r hr]
      have haddress : isAddressText Endpoint.credentials.fullPath.toList = true := by decide
      exact send_ne_failed haddress hwritten
    · rw [hrequest r hr, answer_post]
      exact ⟨_, rfl, takeAnswer_told c _⟩
  · have hrequest : ∀ r, (CredentialWork.storing c).request? (v.found c.name) = some r →
        r = ⟨.patch, .credential k.id, none, some c.payload⟩ := by
      intro r hr
      rw [found_of_named hk] at hr
      exact (Option.some.inj hr).symm
    refine ⟨hsingle, hroom, fun r hr => ?_, fun r hr => ?_⟩
    · rw [hrequest r hr]
      exact send_ne_failed (isAddressText_of_arrival (haddress k (hk ▸ List.mem_singleton_self k))) hwritten
    · rw [hrequest r hr, answer_patch (mem_of_named hk).1]
      exact ⟨_, rfl, takeAnswer_told c _⟩

/-- What a vault holds of a credential that was put into it. -/
structure Vault.Holds (v : Vault) (c : Credential) (before : Vault) (next : String) : Prop where
  one : ∃ k, v.named c.name = [k] ∧ k.type = c.type ∧ k.data = c.data ∧ (k.id ∈ before.ids ∨ k.id = next)
  others : v.others c.name = before.others c.name
  length : v.held.length ≤ before.held.length + 1

/-- **A store leaves one credential of the name**, with the type and the data that were sent, and the others as they
    were. -/
theorem holds_after_storing (hsingle : (v.named c.name).length ≤ 1) :
    (z.after (.storing c) v).Holds c v (z.source.next v.ids) := by
  rcases named_cases hsingle with hnone | ⟨k, hk⟩
  · have hafter : z.after (.storing c) v = v.add z.source c.name c.type c.data :=
      Custodian.after_of_some (k := .storing c) (congrArg _ (found_of_nil hnone))
    rw [hafter]
    refine ⟨⟨v.made z.source c.name c.type c.data, ?_, rfl, rfl, Or.inr rfl⟩, Vault.others_add .., ?_⟩
    · rw [Vault.named_add, hnone]
      rfl
    · exact Nat.le_of_eq List.length_append
  · obtain ⟨hmem, hname⟩ := mem_of_named hk
    have hafter : z.after (.storing c) v = v.change k.id c.name c.type c.data := by
      rw [Custodian.after_of_some (k := .storing c) (congrArg _ (found_of_named hk))]
      exact congrArg Prod.snd (answer_patch hmem c)
    have howns : v.Owns c.name k.id := hname ▸ Vault.owns_of_mem hmem
    rw [hafter]
    refine ⟨⟨Vault.changed k c.name c.type c.data, ?_, rfl, rfl, Or.inl ?_⟩,
      Vault.others_change howns, ?_⟩
    · rw [Vault.named_change howns, hk, List.map_singleton, if_pos rfl]
    · exact List.mem_map.mpr ⟨k, hmem, rfl⟩
    · exact Nat.le_succ_of_le (Nat.le_of_eq (List.length_map _))

/-- A credential that is held as it is sent is stored without a change. -/
theorem after_storing_eq_self (hk : v.named c.name = [k]) (htype : k.type = c.type) (hdata : k.data = c.data) :
    z.after (.storing c) v = v := by
  obtain ⟨hmem, hname⟩ := mem_of_named hk
  rw [Custodian.after_of_some (k := .storing c) (congrArg _ (found_of_named hk))]
  refine (congrArg Prod.snd (answer_patch hmem c)).trans (Vault.change_eq_self fun k' hk' hid => ?_)
  rw [Vault.eq_of_id hk' hmem hid, ← hname, ← htype, ← hdata]
  rfl

theorem settles_storing [Depth] (hwritten : Json.writeFault? true c.payload = none)
    (hsingle : (v.named c.name).length ≤ 1) (hroom : v.held.length + 1 < budget)
    (haddress : ∀ id, id ∈ v.ids ∨ id = z.source.next v.ids → IsAddressable base id) :
    z.Settles (.storing c) budget v := by
  obtain ⟨⟨k, hk, htype, hdata, hid⟩, -, hlength⟩ := holds_after_storing (z := z) hsingle
  refine ⟨ready_storing base hwritten hsingle (Nat.lt_of_succ_lt hroom) ?_, ready_storing base hwritten ?_ ?_ ?_, ?_⟩
  · exact fun k' hk' => haddress k'.id (Or.inl (List.mem_map_of_mem (Vault.mem_named.mp hk').1))
  · rw [hk]
    exact Nat.le_refl 1
  · omega
  · rw [hk]
    exact List.forall_mem_singleton.mpr (haddress k.id hid)
  · exact after_storing_eq_self hk htype hdata

theorem ready_deleting [Depth] (hsingle : (v.named name).length ≤ 1) (hroom : v.held.length < budget)
    (haddress : ∀ k ∈ v.named name, IsAddressable base k.id) : v.Ready z (.deleting name) budget := by
  rcases named_cases hsingle with hnone | ⟨k, hk⟩
  · have hrequest : ∀ r, (CredentialWork.deleting name).request? (v.found name) ≠ some r := by
      rw [found_of_nil hnone]
      nofun
    exact ⟨hsingle, hroom, fun r hr => absurd hr (hrequest r), fun r hr => absurd hr (hrequest r)⟩
  · have hrequest : ∀ r, (CredentialWork.deleting name).request? (v.found name) = some r →
        r = ⟨.delete, .credential k.id, none, none⟩ := by
      intro r hr
      rw [found_of_named hk] at hr
      exact (Option.some.inj hr).symm
    refine ⟨hsingle, hroom, fun r hr => ?_, fun r hr => ?_⟩
    · rw [hrequest r hr]
      exact send_ne_failed (isAddressText_of_arrival (haddress k (hk ▸ List.mem_singleton_self k))) rfl
    · rw [hrequest r hr, answer_delete (mem_of_named hk).1]
      exact ⟨_, rfl, rfl⟩

/-- **A deletion leaves no credential of the name**, and the others as they were. -/
theorem after_deleting (hsingle : (v.named name).length ≤ 1) :
    (z.after (.deleting name) v).named name = [] ∧ (z.after (.deleting name) v).others name = v.others name
      ∧ (z.after (.deleting name) v).held.length ≤ v.held.length := by
  rcases named_cases hsingle with hnone | ⟨k, hk⟩
  · have hafter : z.after (.deleting name) v = v :=
      Custodian.after_of_none (k := .deleting name) (congrArg _ (found_of_nil hnone))
    rw [hafter]
    exact ⟨hnone, rfl, Nat.le_refl _⟩
  · obtain ⟨hmem, hname⟩ := mem_of_named hk
    have hafter : z.after (.deleting name) v = v.remove k.id := by
      rw [Custodian.after_of_some (k := .deleting name) (congrArg _ (found_of_named hk))]
      exact congrArg Prod.snd (answer_delete hmem)
    rw [hafter]
    refine ⟨?_, Vault.others_remove (hname ▸ Vault.owns_of_mem hmem), List.length_filter_le _ _⟩
    rw [Vault.named_remove, hk]
    simp

theorem settles_deleting [Depth] (hsingle : (v.named name).length ≤ 1) (hroom : v.held.length < budget)
    (haddress : ∀ id ∈ v.ids, IsAddressable base id) : z.Settles (.deleting name) budget v := by
  obtain ⟨hnone, -, hlength⟩ := after_deleting (z := z) hsingle
  refine ⟨ready_deleting base hsingle hroom ?_, ready_deleting base ?_ (Nat.lt_of_le_of_lt hlength hroom) ?_, ?_⟩
  · exact fun k hk => haddress k.id (List.mem_map_of_mem (Vault.mem_named.mp hk).1)
  · rw [hnone]
    exact Nat.zero_le 1
  · rw [hnone]
    nofun
  · -- nothing is found any more
    exact Custodian.after_of_none (k := .deleting name) (congrArg _ (found_of_nil hnone))

end Work

/-! ## Rounds -/

section Rounds

variable [Depth]

/-- Whether a request begins a listing of credentials: it asks for the first page. -/
def Http.Request.beginsListing (r : Request) : Bool :=
  r.method = .get && r.endpoint = .credentials && r.parameters.isNone

/-- The number of listings that are begun. -/
def rounds (xs : List Exchange) : Nat := xs.countP fun x => x.request.beginsListing

theorem rounds_listing {budget : Nat} {xs : List Exchange} {o : End (List Credential)}
    (h : Course (listCredentials budget) xs o) : rounds xs ≤ 1 := by
  obtain ⟨ended, hpages, -⟩ := course_bind_ofExcept h
  rcases course_listFrom_head hpages with rfl | ⟨reply, rest, rfl, hrest⟩
  · exact Nat.zero_le 1
  · have hnone : rest.countP (fun x => x.request.beginsListing) = 0 := by
      refine List.countP_eq_zero.mpr fun x hx => ?_
      obtain ⟨next, hnext⟩ := hrest x hx
      rw [hnext]
      nofun
    rw [rounds, List.countP_cons, hnone, Nat.zero_add]
    split <;> omega

/-- An attempt begins one listing at most: the request after it does not list. -/
theorem rounds_once {k : CredentialWork} {budget : Nat} {xs : List Exchange} {o : End Unit}
    (h : Course (k.once budget) xs o) : rounds xs ≤ 1 := by
  rcases course_bind h with ⟨listed, ys, zs, hlisting, hrest, rfl⟩ | ⟨e, hlisting, -⟩ | ⟨hlisting, -⟩
  · have hwrite : rounds zs = 0 := by
      unfold CredentialWork.apply at hrest
      split at hrest
      · cases hrest
        rfl
      · next r hr =>
          rcases course_operation hrest with ⟨rfl, -⟩ | ⟨reply, rfl, -⟩
          · rfl
          · refine List.countP_eq_zero.mpr (List.forall_mem_singleton.mpr ?_)
            simp [Request.beginsListing, k.writes _ r hr]
    rw [rounds, List.countP_append]
    exact Nat.add_le_add (rounds_listing hlisting) (Nat.le_of_eq hwrite)
  · exact rounds_listing hlisting
  · exact rounds_listing hlisting

omit [Depth] in
theorem rounds_flatten {xss : List (List Exchange)} (h : ∀ xs ∈ xss, rounds xs ≤ 1) :
    rounds xss.flatten ≤ xss.length := by
  induction xss with
  | nil => exact Nat.le_refl 0
  | cons xs rest ih =>
      obtain ⟨hfirst, hrest⟩ := List.forall_mem_cons.mp h
      rw [List.flatten_cons, rounds, List.countP_append, List.length_cons, Nat.add_comm]
      exact Nat.add_le_add (ih hrest) hfirst

omit [Depth] in
/-- **A guarded piece of work goes through its attempts**, and is true where they bring a value. -/
theorem course_guarded {p : Propagator} {org service operation : String} {work : Act Unit} {xs : List Exchange}
    {o : End Bool} (h : Course (p.guarded org service operation work) xs o) :
    ∃ ended, InRounds work p.attempts xs ended ∧ (o = .value true → ended = .value ()) := by
  have hattempts : p.attempts - 1 + 1 = p.attempts := Nat.sub_add_cancel (attempts_pos p)
  rw [← hattempts]
  rcases course_bind h with ⟨outcome, ys, zs, hfirst, hrest, rfl⟩ | ⟨e, hfailed, rfl⟩ | ⟨hcut, rfl⟩
  · rcases course_attempt hfirst with ⟨a, ha, hend⟩ | ⟨e, he, hend⟩ | ⟨-, hend⟩
    · cases hend
      cases hrest
      rw [List.append_nil]
      exact ⟨_, course_retry ha, fun _ => rfl⟩
    · cases hend
      cases e with
      | remote x =>
          -- the failure is reported and recorded, and nothing is sent any more
          cases hrest with
          | ask _ hrest =>
              cases hrest with
              | ask _ hrest =>
                  cases hrest
                  exact ⟨_, (List.append_nil ys).symm ▸ course_retry he, nofun⟩
      | _ =>
          cases hrest
          exact ⟨_, (List.append_nil ys).symm ▸ course_retry he, nofun⟩
    · cases hend
  · rcases course_attempt hfailed with ⟨a, -, hend⟩ | ⟨e', -, hend⟩ | ⟨-, hend⟩ <;> cases hend
  · rcases course_attempt hcut with ⟨a, -, hend⟩ | ⟨e', -, hend⟩ | ⟨hcut, -⟩
    · cases hend
    · cases hend
    · exact ⟨_, course_retry hcut, nofun⟩

/-- **A guarded piece of work begins no more listings than it has attempts**, whatever it is answered. -/
theorem rounds_guarded {p : Propagator} {k : CredentialWork} {org service operation : String} {xs : List Exchange}
    {o : End Bool} (h : Course (p.guarded org service operation (k.once p.pageBudget)) xs o) :
    (rounds xs : Int) ≤ max 1 p.maxAttempts := by
  obtain ⟨ended, ⟨xss, hlength, rfl, hrounds, -⟩, -⟩ := course_guarded h
  have hle : rounds xss.flatten ≤ p.attempts := by
    refine Nat.le_trans (rounds_flatten fun xs hxs => ?_) hlength
    obtain ⟨ended, hcourse⟩ := hrounds xs hxs
    exact rounds_once hcourse
  unfold Propagator.attempts at hle
  omega

end Rounds

/-! ## Upserts -/

/-- What a propagation for an organization and a service leaves of a vault, whatever becomes of its requests. -/
structure LeavesOnce [Depth] (p : Propagator) (name org service operation : String) (before : VaultSite)
    (result : End Bool × VaultSite) (xs : List Exchange) : Prop where
  ends : result.1 = .value true ∨ result.1 = .value false
  single : (result.2.vault.named name).length ≤ 1
  others : result.2.vault.others name = before.vault.others name
  rounds : (rounds xs : Int) ≤ max 1 p.maxAttempts
  /-- One failure is recorded where it is false. -/
  recorded : result.1 = .value false →
    ∃ message, result.2.near.failures = before.near.failures ++ [⟨org, service, operation, message⟩]
  kept : result.1 = .value true → result.2.near.failures = before.near.failures

section Upserts

variable [Depth] {z : Custodian} {fate : Nat → Fate} {p : Propagator} {s : VaultSite}

/-- A piece of work that touches one name leaves the vault as it was, or with the work done, and with it done where it
    is true. -/
theorem leavesOnce_guarded (fate : Nat → Fate) {k : CredentialWork} (org service operation : String)
    (h : z.Settles k p.pageBudget s.vault) (hothers : (z.after k s.vault).others k.name = s.vault.others k.name) :
    LeavesOnce p k.name org service operation s
        ((p.guarded org service operation (k.once p.pageBudget)).run (VaultSite.answer z fate) s)
        (exchanges (VaultSite.answer z fate) (p.guarded org service operation (k.once p.pageBudget)) s)
      ∧ (((p.guarded org service operation (k.once p.pageBudget)).run (VaultSite.answer z fate) s).1 = .value true →
        ((p.guarded org service operation (k.once p.pageBudget)).run (VaultSite.answer z fate) s).2.vault
          = z.after k s.vault) := by
  have hrounds := rounds_guarded (course_run (VaultSite.answer z fate)
    (p.guarded org service operation (k.once p.pageBudget)) s)
  have hconcludes := concludes_guarded fate org service operation h
  generalize (p.guarded org service operation (k.once p.pageBudget)).run (VaultSite.answer z fate) s = x at hconcludes
  cases hconcludes with
  | @made t vault failures =>
      have hsingle : (t.vault.named k.name).length ≤ 1 := vault ▸ h.afterwards.single
      have hkept : t.vault.others k.name = s.vault.others k.name := vault ▸ hothers
      exact ⟨⟨Or.inl rfl, hsingle, hkept, hrounds, nofun, fun _ => failures⟩, fun _ => vault⟩
  | @refused t vault message failures =>
      have hleft : (t.vault.named k.name).length ≤ 1 ∧ t.vault.others k.name = s.vault.others k.name := by
        rcases vault with hvault | hvault
        · rw [hvault]
          exact ⟨h.before.single, rfl⟩
        · rw [hvault]
          exact ⟨h.afterwards.single, hothers⟩
      exact ⟨⟨Or.inr rfl, hleft.1, hleft.2, hrounds, fun _ => ⟨message, failures⟩, nofun⟩, nofun⟩

end Upserts

/-- A custodian that lists one credential on a page, its marks being as long as the position that they stand for. -/
def Custodian.plain : Custodian where
  source := .tally
  order := id
  order_perm _ := .refl _
  pageSize := 1
  pageSize_pos := Nat.one_pos
  mark n := String.ofList (List.replicate (n + 1) '1')
  mark_ne_empty n h := by
    have hlength := congrArg String.length h
    rw [String.length_ofList, List.length_replicate] at hlength
    cases hlength
  place? s := some (s.length - 1)
  place?_mark n := by rw [String.length_ofList, List.length_replicate, Nat.add_sub_cancel]
  details _ := []
  details_data _ _ h := by cases h

/-- An answer that does not come in time. -/
def Mishap.late [Depth] : Mishap := ⟨.failed "ReadTimeout" "timed out", fun _ => ⟨_, rfl⟩⟩

/-- The answer to the second request is lost. -/
def secondLost [Depth] (n : Nat) : Fate := if n = 1 then .lost .late else .delivered

/-- An empty vault beside a process that has done nothing yet. -/
def emptyVault : VaultSite := ⟨⟨[], by simp⟩, engineAnswering []⟩

theorem isAddressable_emptyVault (id : String)
    (h : id ∈ emptyVault.vault.ids ∨ id = Custodian.plain.source.next emptyVault.vault.ids) :
    IsAddressable emptyVault.near.base id := by
  rcases h with hid | rfl
  · cases hid
  · decide +kernel

-- one run is computed here
attribute [local semireducible] send

end PromptGraph
