import PromptGraph.Proofs.Credential.Outcome
import PromptGraph.Proofs.Credential.Vault

/-!
# `Proofs.Credential.Tried` — attempts at a vault, whatever becomes of their requests

A run at a vault was to bring a value and to leave the vault in a certain state: it does, or it fails remotely, and what
it was to do may have been done all the same. An attempt at a credential looks it up before it writes. When the answer
to a write is lost, the next attempt therefore finds what the write did, and a piece of work that changes nothing where
it was done already is done once along any number of attempts.

## Contents
- **Requests.** `send_ne_failed`; `Tried` with a rule for what follows a run and one for what is read of it,
  `tried_send`.
- **Listing.** `read_toldCredential`, `readEach_told`; `tried_listFrom` by induction on the pages,
  `tried_listCredentials`.
- **Attempts.** `Custodian.after`, `Vault.Ready`, `tried_once`; `Custodian.Settles`, `Leaves`, and `tried_retry`.
- **Conclusion.** `Concludes`, and `concludes_guarded`.
-/

namespace PromptGraph

open Act Engine Http

variable [Depth]

/-! ## Requests -/

theorem send_ne_failed {r : Request} (haddress : r.isAddressable = true) (hfault : bodyFault? r = none) (f : Failure) :
    send r ≠ .failed f := by
  rw [send_eq_ask haddress hfault]
  nofun

-- what a request comes to is known; to unfold its checks takes long
attribute [local irreducible] send

section Site

variable {z : Custodian} {fate : Nat → Fate}

/-- A run was to bring a value and to leave a vault: it does, or a request of it is not delivered, and it fails remotely
    and leaves the vault as it was or as it was to be left. No failure is recorded. -/
structure Tried {α : Type} (fate : Nat → Fate) (s : VaultSite) (a : α) (done : Vault) (x : End α × VaultSite) :
    Prop where
  ends : (x.1 = .value a ∧ x.2.vault = done)
    ∨ ((∃ e, x.1 = .failure (.remote e)) ∧ (x.2.vault = s.vault ∨ x.2.vault = done) ∧ ∃ n, fate n ≠ .delivered)
  failures : x.2.near.failures = s.near.failures

variable {α β : Type} {s : VaultSite} {a : α} {done : Vault} {p : Act α}

/-- What follows a run that leaves the vault as it was goes on from its value. -/
theorem Tried.bind {b : β} {f : α → Act β} (h : Tried fate s a s.vault (p.run (VaultSite.answer z fate) s))
    (hf : ∀ t : VaultSite, t.vault = s.vault → Tried fate t b done ((f a).run (VaultSite.answer z fate) t)) :
    Tried fate s b done ((p >>= f).run (VaultSite.answer z fate) s) := by
  rw [run_bind]
  generalize p.run (VaultSite.answer z fate) s = x at h
  obtain ⟨hends, hfailures⟩ := h
  obtain ⟨o, t⟩ := x
  rcases hends with ⟨hvalue, hvault⟩ | ⟨⟨e, herror⟩, hvault, hundelivered⟩
  · cases hvalue
    obtain ⟨hends, hmore⟩ := hf t hvault
    rw [hvault] at hends
    exact ⟨hends, hmore.trans hfailures⟩
  · cases herror
    exact ⟨Or.inr ⟨⟨e, rfl⟩, Or.inl (hvault.elim id id), hundelivered⟩, hfailures⟩

/-- What a run brings is read, and the vault left as the run leaves it. -/
theorem Tried.read {b : β} {f : α → Except Failure β} (h : Tried fate s a done (p.run (VaultSite.answer z fate) s))
    (hread : f a = .ok b) : Tried fate s b done ((p >>= fun a => ofExcept (f a)).run (VaultSite.answer z fate) s) := by
  rw [run_bind]
  generalize p.run (VaultSite.answer z fate) s = x at h
  obtain ⟨hends, hfailures⟩ := h
  obtain ⟨o, t⟩ := x
  rcases hends with ⟨hvalue, hvault⟩ | ⟨⟨e, herror⟩, hvault, hundelivered⟩
  · cases hvalue
    show Tried fate s b done ((ofExcept (f a)).run (VaultSite.answer z fate) t)
    rw [hread]
    exact ⟨Or.inl ⟨rfl, hvault⟩, hfailures⟩
  · cases herror
    exact ⟨Or.inr ⟨⟨e, rfl⟩, hvault, hundelivered⟩, hfailures⟩

/-- **A request to a vault** brings what the vault answers and leaves what it holds then, or fails remotely, whether it
    took effect or not. -/
theorem tried_send {r : Request} {reply : Reply} {v : Json} (hsent : ∀ f, send r ≠ .failed f)
    (hanswer : z.answer s.vault r = (reply, done)) (hvalue : replyValue r reply = .ok v) :
    Tried fate s v done ((send r).run (VaultSite.answer z fate) s) := by
  have hrun : (send r).run (VaultSite.answer z fate) s
      = (endOf (replyValue r (VaultSite.answer z fate (.exchange r) s).1),
        (VaultSite.answer z fate (.exchange r) s).2) := by
    rcases send_cases r with hr | ⟨e, hr, -⟩
    · rw [hr, run_ask, run_ofExcept]
    · exact absurd hr (hsent e)
  rw [hrun]
  obtain ⟨near, hnear, ⟨mishap, left, hmishap, hleft, ⟨e, hremote⟩, hundelivered⟩ | hdelivered⟩ :=
    VaultSite.answer_exchange_cases z fate r s
  · rw [hanswer] at hleft
    rw [hmishap, hremote]
    exact ⟨Or.inr ⟨⟨e, rfl⟩, hleft, hundelivered⟩, hnear⟩
  · rw [hdelivered, hanswer, hvalue]
    exact ⟨Or.inl ⟨rfl, rfl⟩, hnear⟩

/-! ## Listing -/

omit [Depth] in
/-- What is told of a credential is read as one with its id, its name and its type. -/
theorem read_toldCredential (z : Custodian) (k : KeptCredential) :
    ∃ data, Credential.read (z.told k) = .ok ⟨some k.id, k.name, k.type, data⟩ := by
  have hdata : ∃ data, Schema.withDefault ([("id", .str k.id), ("name", .str k.name), ("type", .str k.type)]
      ++ z.details k) "data" Schema.mapping [] = .ok data := by
    have hget : Members.get? "data" ([("id", .str k.id), ("name", .str k.name), ("type", .str k.type)]
        ++ z.details k) = Members.get? "data" (z.details k) := rfl
    cases hdetails : Members.get? "data" (z.details k) with
    | none => exact ⟨[], Schema.withDefault_of_none (hget.trans hdetails)⟩
    | some v =>
        obtain ⟨ms, rfl⟩ := z.details_data k v hdetails
        exact ⟨ms, (Schema.withDefault_of_some (hget.trans hdetails)).mpr rfl⟩
  obtain ⟨data, hdata⟩ := hdata
  refine ⟨data, Checked.toExcept_eq_ok.mpr (Checked.andThen_eq_ok.mpr ⟨_, rfl, ?_⟩)⟩
  exact Checked.seq_eq_ok.mpr ⟨_, data, rfl, hdata, rfl⟩

omit [Depth] in
/-- What is told of credentials is read, and of each name the first is found. -/
theorem readEach_told (z : Custodian) (ks : List KeptCredential) :
    ∃ listed, readEach Credential.read (ks.map z.told) = .ok listed ∧ ∀ name, Propagator.findId name listed
      = (ks.filter fun k => k.name = name).head?.map KeptCredential.id := by
  induction ks with
  | nil => exact ⟨[], rfl, fun _ => rfl⟩
  | cons k rest ih =>
      obtain ⟨listed, hlisted, hfound⟩ := ih
      obtain ⟨data, hread⟩ := read_toldCredential z k
      refine ⟨_ :: listed, bind_eq_ok.mpr ⟨_, hread, bind_eq_ok.mpr ⟨listed, hlisted, rfl⟩⟩, fun name => ?_⟩
      have hfind : Propagator.findId name (⟨some k.id, k.name, k.type, data⟩ :: listed)
          = (if k.name = name then some k.id else none).or (Propagator.findId name listed) := by
        have hid : Propagator.findId.nonEmptyId (some k.id) = some k.id :=
          Option.filter_eq_some_iff.mpr ⟨rfl, decide_eq_true k.id_ne_empty⟩
        rw [Propagator.findId, List.findSome?_cons, hid]
        by_cases hname : k.name = name
        · rw [if_pos hname]
          rfl
        · rw [if_neg hname]
          rfl
      rw [hfind, hfound name, List.filter_cons]
      by_cases hname : k.name = name
      · simp [hname]
      · simp [hname]

omit [Depth] in
/-- The page at a position tells the credentials from there on, and where the next page begins. -/
theorem readPage_page (z : Custodian) (v : Vault) (start : Nat) : readPage (z.page v start)
    = .ok ((((z.order v.held).drop start).take z.pageSize).map z.told,
      if start + z.pageSize < v.held.length then some (.str (z.mark (start + z.pageSize))) else none) := by
  have hpage : readPage (z.page v start) = .ok ((((z.order v.held).drop start).take z.pageSize).map z.told,
      (some (z.next v start)).filter Json.isTruthy) := rfl
  rw [hpage, Custodian.next]
  by_cases hmore : start + z.pageSize < v.held.length
  · rw [if_pos hmore, if_pos hmore, Option.filter_some, if_pos]
    simp [Json.isTruthy, z.mark_ne_empty]
  · rw [if_neg hmore, if_neg hmore]
    rfl

/-- **The listing of a vault from a position on** brings all that is told from there on, or fails remotely; the vault is
    as it was. By induction on the number of pages that the listing may have. -/
theorem tried_listFrom {budget start : Nat} {cursor : Option Json} (hroom : s.vault.held.length - start < budget)
    (hcursor : z.start? (cursor.map cursorParameters) = some start) :
    Tried fate s (((z.order s.vault.held).drop start).map z.told) s.vault
      ((listFrom .credentials budget cursor).run (VaultSite.answer z fate) s) := by
  induction budget generalizing start cursor s with
  | zero => exact absurd hroom (Nat.not_lt_zero _)
  | succ budget ih =>
      have hanswer : z.answer s.vault (pageRequest .credentials cursor)
          = (Custodian.ok (z.page s.vault start), s.vault) := by
        unfold Custodian.answer pageRequest
        dsimp only
        rw [hcursor]
      rw [listFrom_succ]
      refine (tried_send (send_page cursor) hanswer rfl).bind fun t ht => ?_
      rw [readPage_page]
      by_cases hmore : start + z.pageSize < s.vault.held.length
      · -- the pages after this one are told by induction
        rw [if_pos hmore]
        have hsize := z.pageSize_pos
        have hmark : z.start? ((some (Json.str (z.mark (start + z.pageSize)))).map cursorParameters)
            = some (start + z.pageSize) := z.place?_mark _
        have hrest := ih (s := t) (by rw [ht]; omega) hmark
        rw [ht] at hrest
        refine hrest.read (f := fun more => .ok (_ ++ more)) (congrArg Except.ok ?_)
        rw [← List.map_append, ← List.drop_drop, List.take_append_drop]
      · rw [if_neg hmore]
        have hall : ((z.order s.vault.held).drop start).take z.pageSize = (z.order s.vault.held).drop start := by
          refine List.take_of_length_le ?_
          rw [List.length_drop, (z.order_perm _).length_eq]
          omega
        rw [hall]
        exact ⟨Or.inl ⟨rfl, ht⟩, rfl⟩

omit [Depth] in
/-- Where a name is that of one credential at most, the order of a listing does not tell which is found. -/
theorem head?_filter_of_perm {ks ks' : List KeptCredential} {q : KeptCredential → Bool} (h : ks'.Perm ks)
    (hsingle : (ks.filter q).length ≤ 1) : (ks'.filter q).head? = (ks.filter q).head? := by
  have hperm := h.filter q
  generalize ks.filter q = found at hperm hsingle
  match found, hsingle with
  | [], _ => rw [List.perm_nil.mp hperm]
  | [k], _ => rw [List.perm_singleton.mp hperm]

/-- The listing of a vault brings credentials among which just the one of a name is found that is held. -/
theorem tried_listCredentials (fate : Nat → Fate) {budget : Nat} {name : String}
    (hsingle : (s.vault.named name).length ≤ 1) (hroom : s.vault.held.length < budget) :
    ∃ listed, Propagator.findId name listed = s.vault.found name
      ∧ Tried fate s listed s.vault ((listCredentials budget).run (VaultSite.answer z fate) s) := by
  obtain ⟨listed, hread, hfound⟩ := readEach_told z (z.order s.vault.held)
  have htried : Tried fate s (((z.order s.vault.held).drop 0).map z.told) s.vault
      ((listFrom .credentials budget none).run (VaultSite.answer z fate) s) := tried_listFrom hroom rfl
  refine ⟨listed, ?_, htried.read hread⟩
  rw [hfound name, head?_filter_of_perm (z.order_perm _) hsingle]
  rfl

/-! ## Attempts -/

/-- A vault after a piece of work was done to it, once. -/
def Custodian.after (z : Custodian) (k : CredentialWork) (v : Vault) : Vault :=
  match k.request? (v.found k.name) with
  | none => v
  | some r => (z.answer v r).2

omit [Depth] in
theorem Custodian.after_of_none {k : CredentialWork} {v : Vault} (h : k.request? (v.found k.name) = none) :
    z.after k v = v := by
  rw [after, h]

omit [Depth] in
theorem Custodian.after_of_some {k : CredentialWork} {v : Vault} {r : Request}
    (h : k.request? (v.found k.name) = some r) : z.after k v = (z.answer v r).2 := by
  rw [after, h]

/-- A vault allows a piece of work: it holds one credential of the name at most, its listing fits into the budget, and
    it takes the request for what it holds. -/
structure Vault.Ready (z : Custodian) (k : CredentialWork) (budget : Nat) (v : Vault) : Prop where
  single : (v.named k.name).length ≤ 1
  room : v.held.length < budget
  sent : ∀ r, k.request? (v.found k.name) = some r → ∀ f, send r ≠ .failed f
  accepted : ∀ r, k.request? (v.found k.name) = some r →
    ∃ value, replyValue r (z.answer v r).1 = .ok value ∧ k.accept value = .ok ()

variable {k : CredentialWork} {budget : Nat}

/-- **One attempt does its work, or fails remotely with the work done or not.** -/
theorem tried_once (fate : Nat → Fate) (h : s.vault.Ready z k budget) :
    Tried fate s () (z.after k s.vault) ((k.once budget).run (VaultSite.answer z fate) s) := by
  obtain ⟨listed, hfound, hlisting⟩ := tried_listCredentials (z := z) fate h.single h.room
  refine hlisting.bind fun t ht => ?_
  rw [hfound]
  unfold CredentialWork.apply Custodian.after
  cases hrequest : k.request? (s.vault.found k.name) with
  | none => exact ⟨Or.inl ⟨rfl, ht⟩, rfl⟩
  | some r =>
      obtain ⟨value, hvalue, haccept⟩ := h.accepted r hrequest
      rw [← ht] at hvalue ⊢
      exact (tried_send (h.sent r hrequest) rfl hvalue).read haccept

/-- A piece of work that may be done to a vault again and again, and changes it once. -/
structure Custodian.Settles (z : Custodian) (k : CredentialWork) (budget : Nat) (v : Vault) : Prop where
  before : v.Ready z k budget
  afterwards : (z.after k v).Ready z k budget
  again : z.after k (z.after k v) = z.after k v

/-- What was tried may be tried again. -/
theorem Custodian.Settles.step {v w : Vault} (h : z.Settles k budget v) (hw : w = v ∨ w = z.after k v) :
    z.Settles k budget w ∧ z.after k w = z.after k v := by
  rcases hw with rfl | rfl
  · exact ⟨h, rfl⟩
  · refine ⟨⟨h.afterwards, ?_, ?_⟩, h.again⟩
    · rw [h.again]
      exact h.afterwards
    · rw [h.again, h.again]

/-- What lies between two attempts: the vault is as it was, or with the work done, and no failure is recorded. -/
def Leaves (z : Custodian) (k : CredentialWork) (budget : Nat) (a b : VaultSite) : Prop :=
  z.Settles k budget a.vault →
    b.near.failures = a.near.failures ∧ (b.vault = a.vault ∨ b.vault = z.after k a.vault)

/-- What is tried after an attempt was to be tried before it. -/
theorem Leaves.tried {a b : VaultSite} {x : End Unit × VaultSite} (h : Leaves z k budget a b)
    (ha : z.Settles k budget a.vault) (hx : z.Settles k budget b.vault → Tried fate b () (z.after k b.vault) x) :
    Tried fate a () (z.after k a.vault) x := by
  obtain ⟨hfailures, hvault⟩ := h ha
  obtain ⟨hsettles, hafter⟩ := ha.step hvault
  obtain ⟨hends, hfailures'⟩ := hx hsettles
  rw [hafter] at hends
  refine ⟨hends.imp id (And.imp_right (And.imp_left fun hleft => ?_)), hfailures'.trans hfailures⟩
  rcases hleft with hleft | hleft
  · rw [hleft]
    exact hvault
  · exact Or.inr hleft

theorem Leaves.trans {a b c : VaultSite} (hab : Leaves z k budget a b) (hbc : Leaves z k budget b c) :
    Leaves z k budget a c := by
  intro ha
  obtain ⟨hfailures, hb⟩ := hab ha
  obtain ⟨hsettles, hafter⟩ := ha.step hb
  obtain ⟨hfailures', hc⟩ := hbc hsettles
  rw [hafter] at hc
  refine ⟨hfailures'.trans hfailures, ?_⟩
  rcases hc with hc | hc
  · rw [hc]
    exact hb
  · exact Or.inr hc

theorem leaves_once (s : VaultSite) : Leaves z k budget s ((k.once budget).run (VaultSite.answer z fate) s).2 := by
  intro hs
  obtain ⟨⟨-, hvault⟩ | ⟨-, hvault, -⟩, hfailures⟩ := tried_once fate hs.before
  · exact ⟨hfailures, Or.inr hvault⟩
  · exact ⟨hfailures, hvault⟩

/-- **Attempts in a row do the work once, or fail remotely with it done once or not at all**, whatever becomes of their
    requests. -/
theorem tried_retry (fate : Nat → Fate) (wait : Nat → Double) (rest n : Nat) (h : z.Settles k budget s.vault) :
    Tried fate s () (z.after k s.vault)
      ((retry Propagator.isRemote wait (k.once budget) rest n).run (VaultSite.answer z fate) s) := by
  obtain ⟨i, -, hlast⟩ := ((repeats_retry (VaultSite.answer z fate) (k.once budget) wait
    Propagator.isRemote).run rest n s).eq_trial
  have hbefore : Leaves z k budget s (trialState (VaultSite.answer z fate) (k.once budget) wait n i s) :=
    trialState_related (R := Leaves z k budget) (fun _ _ => ⟨rfl, Or.inl rfl⟩) Leaves.trans leaves_once
      (fun _ _ _ => ⟨rfl, Or.inl rfl⟩) i n s
  rw [hlast]
  exact hbefore.tried h fun hsettles => tried_once fate hsettles.before

/-! ## Conclusion -/

/-- How a propagation ends: it is true, with its work done, or a request was not delivered, and it is false, with its
    work done or not and a failure recorded. -/
inductive Concludes (fate : Nat → Fate) (s : VaultSite) (done : Vault) (org service operation : String) :
    End Bool × VaultSite → Prop where
  | made {t : VaultSite} (vault : t.vault = done) (failures : t.near.failures = s.near.failures) :
      Concludes fate s done org service operation (.value true, t)
  | refused {t : VaultSite} (vault : t.vault = s.vault ∨ t.vault = done) (message : String)
      (failures : t.near.failures = s.near.failures ++ [⟨org, service, operation, message⟩])
      (undelivered : ∃ n, fate n ≠ .delivered) : Concludes fate s done org service operation (.value false, t)

/-- **A guarded piece of work concludes**: it neither fails nor is cut. -/
theorem concludes_guarded (fate : Nat → Fate) {p : Propagator} (org service operation : String)
    (h : z.Settles k p.pageBudget s.vault) :
    Concludes fate s (z.after k s.vault) org service operation
      ((p.guarded org service operation (k.once p.pageBudget)).run (VaultSite.answer z fate) s) := by
  show Concludes fate s _ org service operation ((attempt (retry Propagator.isRemote p.waitAfter _ _ 1) >>= _).run _ s)
  rw [run_bind, run_attempt]
  have htried := tried_retry fate p.waitAfter (p.attempts - 1) 1 h
  generalize (retry Propagator.isRemote p.waitAfter (k.once p.pageBudget) (p.attempts - 1) 1).run
    (VaultSite.answer z fate) s = x at htried
  obtain ⟨hends, hfailures⟩ := htried
  obtain ⟨o, t⟩ := x
  rcases hends with ⟨hvalue, hvault⟩ | ⟨⟨e, herror⟩, hvault, hundelivered⟩
  · cases hvalue
    exact .made hvault hfailures
  · cases herror
    refine .refused hvault e.message ?_ hundelivered
    show t.near.failures ++ _ = _
    rw [hfailures]

end Site

end PromptGraph
